import SmppReplay.Command.Performance
import SmppReplay.Proofs.Faults

/-!
# How a command ends

**Question.** When does a command leave a transcript behind, and what does its exit status
say?

**Two checks.** Settings are checked before the script is compiled, and what a run takes
from them is checked once more when the run is set up, at a time at which the transcript is
there already.  The first check asks for all that the second one asks for
(`fault?_eq_none_iff`, `setup_eq_ok_iff`), so that the second one refuses nothing.

**Method.** A command that is to run a script is `Ready` if its settings load, are usable,
and its script compiles; it ends in one of three ways (`Ends`).

Main fact:
* `commandLaws`: the transcript is created exactly if the command is ready and the file can
  be created; a run that begins is set up; the exit status is zero exactly if the run was
  completed.
-/

namespace SmppReplay

/-! ### Settings that can be used -/

namespace Settings

/-- What settings must meet before anything is done with them. -/
structure Usable (s : Settings) : Prop where
  host : s.server.host ≠ ""
  port : s.server.port ≠ 0
  /-- Every name of an answered type is the name of a type. -/
  names : ∀ name ∈ s.autoReply, ∃ t, MessageType.ofName? name = some t
  /-- A frame can hold a header. -/
  frames : Pdu.headerSize ≤ s.connection.framing.maxFrame

theorem typeOfName_eq_ok_iff (name : String) (t : MessageType) :
    typeOfName name = .ok t ↔ MessageType.ofName? name = some t := by
  unfold typeOfName
  cases MessageType.ofName? name with
  | none =>
      simp
  | some u =>
      simp

/-- The answered types are known exactly if all their names are. -/
theorem exists_autoTypes_iff (s : Settings) :
    (∃ types, s.autoTypes = .ok types) ↔
      ∀ name ∈ s.autoReply, ∃ t, MessageType.ofName? name = some t := by
  unfold autoTypes
  constructor
  · rintro ⟨types, htypes⟩ name hname
    obtain ⟨t, -, ht⟩ := exists_mem_of_mapM htypes hname
    exact ⟨t, (typeOfName_eq_ok_iff name t).1 ht⟩
  · intro hnames
    cases hmap : s.autoReply.mapM typeOfName with
    | ok types =>
        exact ⟨types, rfl⟩
    | error e =>
        obtain ⟨name, hname, he⟩ := exists_of_mapM_eq_error hmap
        obtain ⟨t, ht⟩ := hnames name hname
        cases ((typeOfName_eq_ok_iff name t).2 ht).symm.trans he

end Settings

theorem ConnectionSettings.fault?_eq_none_iff (c : ConnectionSettings) :
    c.fault? = none ↔ Pdu.headerSize ≤ c.framing.maxFrame := by
  unfold ConnectionSettings.fault?
  split
  · rename_i hsmall
    exact iff_of_false (by simp) (Nat.not_le.2 hsmall)
  · rename_i hlarge
    exact iff_of_true rfl (Nat.not_lt.1 hlarge)

namespace Settings

/-- **The first check** lets exactly the usable settings through. -/
theorem fault?_eq_none_iff (s : Settings) :
    s.fault? = none ↔ s.Usable := by
  have htypes := s.exists_autoTypes_iff
  have hconnection := s.connection.fault?_eq_none_iff
  unfold fault?
  constructor
  · intro h
    split_ifs at h with hhost hport
    cases hauto : s.autoTypes with
    | error e =>
        rw [hauto] at h
        cases h
    | ok types =>
        rw [hauto] at h
        exact ⟨hhost, hport, htypes.1 ⟨types, hauto⟩,
          hconnection.1 (Option.map_eq_none_iff.1 h)⟩
  · intro h
    obtain ⟨types, hauto⟩ := htypes.2 h.names
    rw [if_neg h.host, if_neg h.port, hauto]
    exact Option.map_eq_none_iff.2 (hconnection.2 h.frames)

/-- Settings that nobody has given are usable. -/
example : ({} : Settings).Usable :=
  (fault?_eq_none_iff {}).1 (by decide)

/-- **The second check** asks for known names and for room for a header. -/
theorem setup_eq_ok_iff (s : Settings) (setup : Setup) :
    s.setup = .ok setup ↔
      Pdu.headerSize ≤ s.connection.framing.maxFrame ∧ setup.connection = s.connection ∧
        s.autoTypes = .ok setup.autoTypes := by
  rw [← ConnectionSettings.fault?_eq_none_iff]
  unfold Settings.setup
  cases s.connection.fault? with
  | some e =>
      simp
  | none =>
      cases s.autoTypes with
      | error e =>
          simp [Except.map]
      | ok types =>
          obtain ⟨connection, autoTypes⟩ := setup
          simp [Except.map, eq_comm]

/-- What the first check lets through passes the second. -/
theorem Usable.exists_setup
    {s : Settings}
    (h : s.Usable) :
    ∃ setup, s.setup = .ok setup := by
  obtain ⟨types, htypes⟩ := s.exists_autoTypes_iff.2 h.names
  exact ⟨⟨s.connection, types⟩, (s.setup_eq_ok_iff _).2 ⟨h.frames, rfl, htypes⟩⟩

end Settings

namespace Command

/-! ### Before the transcript -/

/-- A run of the script can begin: there are settings, they are usable, and the script
compiles with them. -/
structure Ready (host : Host) (a : Arguments) (settings : Settings)
    (batch : Batch) : Prop where
  loaded : Settings.load host.surroundings a.config = .ok settings
  usable : settings.Usable
  compiled : Batch.compileFile settings.defaults (host.script a.script) = .ok batch

theorem prepare_eq_ok_iff (host : Host) (a : Arguments) (p : Plan) :
    prepare host a = .ok p ↔ Ready host a p.settings p.batch ∧
      p.transcript = a.transcript := by
  constructor
  · intro h
    obtain ⟨settings, hload, h⟩ := bind_eq_ok h
    cases hfault : settings.fault? with
    | some e =>
        rw [hfault] at h
        cases h
    | none =>
        rw [hfault] at h
        obtain ⟨batch, hbatch, h⟩ := bind_eq_ok h
        obtain rfl := Except.ok.inj h
        exact ⟨⟨mapError_eq_ok hload, settings.fault?_eq_none_iff.1 hfault,
          mapError_eq_ok hbatch⟩, rfl⟩
  · rintro ⟨⟨hload, husable, hcompiled⟩, htranscript⟩
    obtain ⟨settings, batch, transcript⟩ := p
    obtain rfl : transcript = a.transcript := htranscript
    have hfault := settings.fault?_eq_none_iff.2 husable
    simp only at hload hcompiled hfault
    simp [prepare, hload, hfault, hcompiled, Except.mapError, bind, Except.bind, pure,
      Except.pure]

/-- There is one run for which a command can be ready. -/
theorem Ready.unique
    {host : Host} {a : Arguments} {settings settings' : Settings} {batch batch' : Batch}
    (h : Ready host a settings batch)
    (h' : Ready host a settings' batch') :
    settings = settings' ∧ batch = batch' := by
  obtain rfl := Except.ok.inj (h.loaded.symm.trans h'.loaded)
  exact ⟨rfl, Except.ok.inj (h.compiled.symm.trans h'.compiled)⟩

/-! ### The three ways to end -/

/-- How a command that is to run a script ends. -/
inductive Ends (stage : Stage) (a : Arguments) : Performance → Prop
  /-- It is not ready: no file is touched. -/
  | refused {q : Performance} (h : ∀ settings batch, ¬ Ready stage.host a settings batch)
      (htranscript : q.transcript = none)
      (hstatus : q.status = refusedStatus) : Ends stage a q
  /-- It is ready, and the transcript cannot be created. -/
  | uncreated {settings : Settings} {batch : Batch} {q : Performance}
      (h : Ready stage.host a settings batch) (hfile : stage.creates a.transcript = false)
      (htranscript : q.transcript = none)
      (hstatus : q.status = refusedStatus) : Ends stage a q
  /-- The transcript is created, and the script is run. -/
  | ran {settings : Settings} {batch : Batch} {setup : Setup} {text : String}
      {q : Performance}
      (h : Ready stage.host a settings batch) (hfile : stage.creates a.transcript = true)
      (hsetup : settings.setup = .ok setup)
      (htranscript : q.transcript = some (a.transcript, text))
      (hstatus : q.status = statusOf (stage.run setup batch).1) : Ends stage a q

/-- **A command that is to run a script** is refused before it touches a file, cannot create
the transcript, or runs the script: once the transcript is there, nothing is refused any
more. -/
theorem ends_perform
    {args : List String} {a : Arguments}
    (stage : Stage)
    (h : Request.ofArguments args = .run a) :
    Ends stage a (perform stage args) := by
  unfold perform
  rw [h]
  simp only
  cases hprepare : prepare stage.host a with
  | error e =>
      refine .refused (fun settings batch hready => ?_) rfl rfl
      have hok := (prepare_eq_ok_iff stage.host a ⟨settings, batch, a.transcript⟩).2
        ⟨hready, rfl⟩
      cases hprepare.symm.trans hok
  | ok p =>
      obtain ⟨hready, htranscript⟩ := (prepare_eq_ok_iff stage.host a p).1 hprepare
      obtain ⟨setup, hsetup⟩ := hready.usable.exists_setup
      simp only [Plan.perform, Plan.setup, htranscript, hsetup]
      cases hfile : stage.creates a.transcript with
      | false =>
          exact .uncreated hready hfile rfl rfl
      | true =>
          exact .ran hready hfile hsetup rfl rfl

/-- **The transcript is created** exactly if a run is asked for, everything is ready for it,
and the file can be created. -/
theorem exists_transcript_iff (stage : Stage) (args : List String) (path : String) :
    (∃ text, (perform stage args).transcript = some (path, text)) ↔
      ∃ a settings batch, Request.ofArguments args = .run a ∧
        Ready stage.host a settings batch ∧
        stage.creates a.transcript = true ∧ path = a.transcript := by
  constructor
  · rintro ⟨text, htext⟩
    cases hrequest : Request.ofArguments args with
    | run a =>
        cases ends_perform stage hrequest with
        | refused h htranscript | uncreated h hfile htranscript =>
            cases htranscript.symm.trans htext
        | ran h hfile hsetup htranscript =>
            have hpath := Option.some.inj (htranscript.symm.trans htext)
            exact ⟨a, _, _, rfl, h, hfile, (congrArg Prod.fst hpath).symm⟩
    | help | version | misuse =>
        unfold perform at htext
        rw [hrequest] at htext
        cases htext
  · rintro ⟨a, settings, batch, hrequest, hready, hfile, rfl⟩
    cases ends_perform stage hrequest with
    | refused h =>
        exact absurd hready (h settings batch)
    | uncreated h hfile' =>
        cases hfile.symm.trans hfile'
    | ran h hfile' hsetup htranscript =>
        exact ⟨_, htranscript⟩

/-- A command that is not ready ends before it comes to any file. -/
theorem perform_eq_of_not_ready
    {stage stage' : Stage} {args : List String}
    (hhost : stage'.host = stage.host)
    (hnever : ∀ a settings batch, Request.ofArguments args = .run a →
      ¬ Ready stage.host a settings batch) :
    perform stage' args = perform stage args := by
  unfold perform
  rw [hhost]
  cases hrequest : Request.ofArguments args with
  | run a =>
      simp only
      cases hprepare : prepare stage.host a with
      | error e =>
          rfl
      | ok p =>
          have hready := ((prepare_eq_ok_iff stage.host a p).1 hprepare).1
          exact absurd hready (hnever a _ _ hrequest)
  | help | version | misuse =>
      rfl

/-! ### The exit status -/

theorem statusOf_eq_zero_iff (r : Replay.Report) :
    statusOf r = 0 ↔ r.outcome = .completed := by
  obtain ⟨events, nextSequence, milliseconds, outcome⟩ := r
  cases outcome with
  | completed =>
      exact iff_of_true rfl rfl
  | aborted reason =>
      refine iff_of_false ?_ (by rintro ⟨⟩)
      change ¬ (1 : UInt32) = 0
      decide

theorem statusOf_cases (r : Replay.Report) :
    statusOf r = 0 ∨ statusOf r = 1 := by
  unfold statusOf
  split
  · exact .inl rfl
  · exact .inr rfl

/-- **The status is zero** exactly if there was a run and it was completed. -/
theorem status_eq_zero_iff
    {stage : Stage} {args : List String} {a : Arguments}
    (h : Request.ofArguments args = .run a) :
    (perform stage args).status = 0 ↔
      ∃ settings batch setup, Ready stage.host a settings batch ∧
        stage.creates a.transcript = true ∧
        settings.setup = .ok setup ∧ (stage.run setup batch).1.outcome = .completed := by
  cases ends_perform stage h with
  | refused hnever htranscript hstatus =>
      rw [hstatus]
      exact iff_of_false (by decide) fun ⟨settings, batch, _, hready, _⟩ =>
        hnever settings batch hready
  | uncreated hready hfile htranscript hstatus =>
      rw [hstatus]
      exact iff_of_false (by decide) fun ⟨_, _, _, _, hfile',
        _⟩ => by cases hfile.symm.trans hfile'
  | ran hready hfile hsetup htranscript hstatus =>
      rw [hstatus, statusOf_eq_zero_iff]
      constructor
      · intro hcompleted
        exact ⟨_, _, _, hready, hfile, hsetup, hcompleted⟩
      · rintro ⟨settings', batch', setup', hready', -, hsetup', hcompleted⟩
        obtain ⟨rfl, rfl⟩ := hready.unique hready'
        obtain rfl := Except.ok.inj (hsetup.symm.trans hsetup')
        exact hcompleted

theorem status_eq_zero_or_one
    {stage : Stage} {args : List String} {a : Arguments}
    (h : Request.ofArguments args = .run a) :
    (perform stage args).status = 0 ∨ (perform stage args).status = 1 := by
  cases ends_perform stage h with
  | refused hnever htranscript hstatus | uncreated hready hfile htranscript hstatus =>
      exact .inr hstatus
  | ran hready hfile hsetup htranscript hstatus =>
      rw [hstatus]
      exact statusOf_cases _

/-! ### The laws -/

/-- What a command leaves behind. -/
structure CommandLaws (stage : Stage) (args : List String) : Prop where
  /-- The transcript is created exactly if the arguments ask for a run, everything is ready
  for it, and the file can be created. -/
  created : ∀ path, (∃ text, (perform stage args).transcript = some (path, text)) ↔
    ∃ a settings batch, Request.ofArguments args = .run a ∧
      Ready stage.host a settings batch ∧
      stage.creates a.transcript = true ∧ path = a.transcript
  /-- As long as nothing is ready, nothing depends on what could be done with files. -/
  untouched : (∀ a settings batch, Request.ofArguments args = .run a →
    ¬ Ready stage.host a settings batch) →
    ∀ creates writes run, perform ⟨stage.host, creates, writes, run⟩ args = perform stage args
  /-- What is ready is set up for a run once the transcript is there. -/
  setUp : ∀ a settings batch, Ready stage.host a settings batch →
    ∃ setup, Plan.setup ⟨settings, batch, a.transcript⟩ true = .ok setup
  /-- The status of a command that is to run a script is zero if the run was completed, -/
  success : ∀ a, Request.ofArguments args = .run a → ((perform stage args).status = 0 ↔
    ∃ settings batch setup, Ready stage.host a settings batch ∧
      stage.creates a.transcript = true ∧
      settings.setup = .ok setup ∧ (stage.run setup batch).1.outcome = .completed)
  /-- and else one. -/
  failure : ∀ a, Request.ofArguments args = .run a → (perform stage args).status ≠ 0 →
    (perform stage args).status = 1

/-- **A transcript means that everything was ready**, and status zero that the run was
completed. -/
theorem commandLaws (stage : Stage) (args : List String) :
    CommandLaws stage args where
  created := exists_transcript_iff stage args
  untouched := fun hnever _ _ _ => perform_eq_of_not_ready rfl hnever
  setUp := by
    intro a settings batch hready
    obtain ⟨setup, hsetup⟩ := hready.usable.exists_setup
    refine ⟨setup, ?_⟩
    rw [Plan.setup, if_pos rfl, hsetup]
    rfl
  success := fun _ => status_eq_zero_iff
  failure := fun _ h => (status_eq_zero_or_one h).resolve_left

end Command
end SmppReplay
