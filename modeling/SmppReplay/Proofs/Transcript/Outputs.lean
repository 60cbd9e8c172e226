import SmppReplay.Transcript.Log
import Mathlib.Tactic

/-!
# What the outputs of a log hold

**Question.** A log passes its entries to a file, the console, a view and a history.  Each
of them can be absent, come later, go away or fail.  Which entries does each of them have
after any sequence of operations?

**Method.** All outputs are read off one list of operations.  The entries of the log are
those of the operations (`appended`).  The file has those in front of the first operation
that ends it (`Operation.keepsFile`), and a view those between its attachment and the first
operation that ends it (`Operation.keepsView`).  An entry changes each output by itself
(`Log.append_eq`), so that each output is followed through a run alone.

Main fact:
* `outputs_applyAll`: what each output holds, and that none of them depends on what becomes
  of the others.
-/

namespace SmppReplay
namespace Transcript

/-! ### Operations -/

/-- What can be done with a log. -/
inductive Operation where
  /-- An entry is put into the log; `writes` tells whether a write to the file succeeds. -/
  | append (writes : Bool) (e : Stamped)
  | attachView
  /-- The view at a place goes away. -/
  | dropView (n : Nat)
  /-- The output to the file ends. -/
  | close
  deriving DecidableEq, Repr

namespace Operation

/-- The entry that is put into the log. -/
def entry? : Operation → Option Stamped
  | append _ e => some e
  | _ => none

/-- A file that is open stays open: it is not closed, and no write to it fails. -/
def keepsFile : Operation → Bool
  | append writes _ => writes
  | close => false
  | _ => true

/-- The view at a place, if it is attached, stays attached and is not dropped. -/
def keepsView (n : Nat) : Operation → Bool
  | attachView => false
  | dropView m => m != n
  | _ => true

/-- The operation without what can happen to a file: no write fails, and the output is not
ended. -/
def offFile? : Operation → Option Operation
  | append _ e => some (append true e)
  | close => none
  | op => some op

/-- The operation is not about views only. -/
def isOffViews : Operation → Bool
  | attachView => false
  | dropView _ => false
  | _ => true

end Operation

/-- The entries that some operations put into the log. -/
def appended (ops : List Operation) : List Stamped :=
  ops.filterMap Operation.entry?

/-- The entry whose write fails, if this is the first operation that ends the file. -/
def lastDiverted (ops : List Operation) : List Stamped :=
  ((ops.find? fun op => !op.keepsFile).bind Operation.entry?).toList

/-- How a log is made: in memory or on a file, with or without a history and the console. -/
structure Setup where
  path : Option String
  history : Bool
  echo : Bool
  deriving DecidableEq, Repr

/-- A new log. -/
def Setup.log (setup : Setup) : Log :=
  ((setup.path.elim Log.inMemory Log.onFile).keepHistory setup.history).echoing setup.echo

theorem Setup.log_eq (setup : Setup) :
    setup.log =
      { file := setup.path
        echo := setup.echo
        history := if setup.history then some [] else none } := by
  obtain ⟨path, history, echo⟩ := setup
  cases path <;> cases history <;> rfl

namespace Log

/-- The log after an operation. -/
def apply (log : Log) : Operation → Log
  | .append writes e => log.append writes e
  | .attachView => log.attachView
  | .dropView n => log.dropView n
  | .close => log.close

/-- The log after some operations. -/
def applyAll (log : Log) (ops : List Operation) : Log :=
  ops.foldl apply log

theorem applyAll_cons (log : Log) (op : Operation) (ops : List Operation) :
    log.applyAll (op :: ops) = (log.apply op).applyAll ops :=
  rfl

theorem applyAll_append (log : Log) (ops ops' : List Operation) :
    log.applyAll (ops ++ ops') = (log.applyAll ops).applyAll ops' :=
  List.foldl_append

/-! ### One entry -/

/-- The attached view takes an entry, or it is let go, or there is none. -/
theorem toView_cases (log : Log) (e : Stamped) :
    (log.attached = none ∧ log.toView e = log) ∨
    (∃ n, log.attached = some n ∧ (∀ v, log.views[n]? = some v → v.dropped = true) ∧
      log.toView e = { log with attached := none }) ∨
    ∃ n v, log.attached = some n ∧ log.views[n]? = some v ∧ v.dropped = false ∧
      log.toView e =
        { log with views := log.views.modify n fun v =>
          { v with received := v.received ++ [e] } } := by
  unfold toView
  split
  · rename_i hnone
    exact .inl ⟨hnone, rfl⟩
  · rename_i n hattached
    split
    · rename_i hnone
      refine .inr (.inl ⟨n, hattached, ?_, rfl⟩)
      simp [hnone]
    · rename_i v hv
      split
      · rename_i hdropped
        refine .inr (.inl ⟨n, hattached, ?_, rfl⟩)
        intro v' hv'
        obtain rfl := Option.some.inj (hv.symm.trans hv')
        exact hdropped
      · rename_i hkept
        exact .inr (.inr ⟨n, v, hattached, hv, by simpa using hkept, rfl⟩)

/-- The file is one output, -/
theorem toFile_eq (log : Log) (writes : Bool) (e : Stamped) :
    log.toFile writes e =
      { log with
        file := (log.toFile writes e).file
        written := (log.toFile writes e).written
        diverted := (log.toFile writes e).diverted } := by
  unfold toFile
  split
  · rfl
  · split <;> rfl

/-- the console is another, which does not look at the file, -/
theorem toConsole_eq (log : Log) (file : Option String) (written diverted : List String)
    (e : Stamped) :
    ({ log with file := file, written := written, diverted := diverted } : Log).toConsole e =
      { log with
        file := file
        written := written
        diverted := diverted
        console := (log.toConsole e).console } := by
  cases hecho : log.echo <;> simp [toConsole, hecho]

/-- and the view is a third, which looks at none of them. -/
theorem toView_eq (log : Log) (file : Option String) (written diverted console : List String)
    (e : Stamped) :
    ({ log with
        file := file
        written := written
        diverted := diverted
        console := console } : Log).toView e =
      { log with
        file := file
        written := written
        diverted := diverted
        console := console
        views := (log.toView e).views
        attached := (log.toView e).attached } := by
  rcases toView_cases log e with
    ⟨hnone, hview⟩ | ⟨n, hn, hgone, hview⟩ | ⟨n, v, hn, hv, hkept, hview⟩
  · simp [toView, hnone]
  · cases hv : log.views[n]? with
    | none =>
        simp [toView, hn, hv]
    | some v =>
        simp [toView, hn, hv, hgone v hv]
  · simp [toView, hn, hv, hkept]

/-- An entry changes each output by itself. -/
theorem append_eq (log : Log) (writes : Bool) (e : Stamped) :
    log.append writes e =
      { log with
        file := (log.toFile writes e).file
        written := (log.toFile writes e).written
        diverted := (log.toFile writes e).diverted
        console := (log.toConsole e).console
        views := (log.toView e).views
        attached := (log.toView e).attached
        history := log.history.map (· ++ [e])
        appended := log.appended + 1 } := by
  rw [append, toFile_eq, toConsole_eq, toView_eq]
  rfl

/-! ### Count, history and console -/

theorem appended_applyAll (log : Log) (ops : List Operation) :
    (log.applyAll ops).appended = log.appended + (Transcript.appended ops).length := by
  induction ops generalizing log with
  | nil =>
      rfl
  | cons op ops ih =>
      rw [applyAll_cons, ih]
      cases op with
      | append writes e =>
          rw [apply, append_eq]
          simp [Transcript.appended, Operation.entry?]
          omega
      | _ =>
          rfl

theorem history_applyAll (log : Log) (ops : List Operation) :
    (log.applyAll ops).history = log.history.map (· ++ Transcript.appended ops) := by
  induction ops generalizing log with
  | nil =>
      simp [applyAll, Transcript.appended]
  | cons op ops ih =>
      rw [applyAll_cons, ih]
      cases op with
      | append writes e =>
          rw [apply, append_eq, Option.map_map]
          simp [Transcript.appended, Operation.entry?, Function.comp_def]
      | _ =>
          rfl

theorem console_applyAll (log : Log) (ops : List Operation) :
    (log.applyAll ops).console =
      log.console ++
        if log.echo then (Transcript.appended ops).map Stamped.render else [] := by
  induction ops generalizing log with
  | nil =>
      simp [applyAll, Transcript.appended]
  | cons op ops ih =>
      rw [applyAll_cons, ih]
      cases op with
      | append writes e =>
          rw [apply, append_eq]
          cases hecho : log.echo <;>
            simp [toConsole, hecho, Transcript.appended, Operation.entry?]
      | _ =>
          rfl

/-! ### The file -/

/-- A file that is not open takes nothing. -/
theorem written_of_closed
    {log : Log}
    (h : log.file = none)
    (ops : List Operation) :
    (log.applyAll ops).written = log.written ∧
      (log.applyAll ops).diverted = log.diverted := by
  induction ops generalizing log with
  | nil =>
      exact ⟨rfl, rfl⟩
  | cons op ops ih =>
      rw [applyAll_cons]
      cases op with
      | append writes e =>
          have hsame : log.toFile writes e = log := by
            simp [toFile, h]
          have hclosed : (log.append writes e).file = none := by
            rw [append_eq, hsame, h]
          have hnext := ih hclosed
          rw [append_eq, hsame] at hnext
          rw [apply, append_eq, hsame]
          exact hnext
      | _ =>
          exact ih (by simp [apply, attachView, dropView, close, h])

/-- A file that is open takes the entries up to the first operation that ends it. -/
theorem written_of_open
    {log : Log} {path : String}
    (h : log.file = some path)
    (ops : List Operation) :
    (log.applyAll ops).written = log.written ++
        (Transcript.appended (ops.takeWhile Operation.keepsFile)).map Stamped.render ∧
      (log.applyAll ops).diverted =
        log.diverted ++ (lastDiverted ops).map Stamped.render := by
  induction ops generalizing log with
  | nil =>
      simp [applyAll, Transcript.appended, lastDiverted]
  | cons op ops ih =>
      rw [applyAll_cons]
      cases op with
      | append writes e =>
          cases writes with
          | true =>
              have hopen : (log.append true e).file = some path := by
                simp [append_eq, toFile, h]
              obtain ⟨hwritten, hdiverted⟩ := ih hopen
              rw [apply, hwritten, hdiverted]
              simp [append_eq, toFile, h, Operation.keepsFile, Transcript.appended,
                Operation.entry?, lastDiverted, List.takeWhile_cons]
          | false =>
              have hclosed : (log.append false e).file = none := by
                simp [append_eq, toFile, h]
              obtain ⟨hwritten, hdiverted⟩ := written_of_closed hclosed ops
              rw [apply, hwritten, hdiverted]
              simp [append_eq, toFile, h, Operation.keepsFile, Transcript.appended,
                Operation.entry?, lastDiverted]
      | close =>
          have hclosed : log.close.file = none := rfl
          obtain ⟨hwritten, hdiverted⟩ := written_of_closed hclosed ops
          rw [apply, hwritten, hdiverted]
          simp [close, Operation.keepsFile, Transcript.appended, Operation.entry?,
            lastDiverted]
      | attachView | dropView =>
          exact ih h

/-! ### Views -/

/-- The entries that the view at a place has received. -/
def received? (log : Log) (n : Nat) : Option (List Stamped) :=
  log.views[n]?.map View.received

/-- The view at a place is attached and is there. -/
def Watches (log : Log) (n : Nat) : Prop :=
  log.attached = some n ∧ ∃ v, log.views[n]? = some v ∧ v.dropped = false

theorem length_views_append (log : Log) (writes : Bool) (e : Stamped) :
    (log.append writes e).views.length = log.views.length := by
  rw [append_eq]
  rcases toView_cases log e with ⟨-, hview⟩ | ⟨n, -, -, hview⟩ | ⟨n, v, -, -, -, hview⟩ <;>
    simp [hview]

theorem length_views_applyAll (log : Log) (ops : List Operation) :
    (log.applyAll ops).views.length = log.views.length + ops.count .attachView := by
  induction ops generalizing log with
  | nil =>
      rfl
  | cons op ops ih =>
      rw [applyAll_cons, ih]
      cases op with
      | append writes e =>
          rw [apply, length_views_append]
          simp
      | attachView =>
          simp [apply, attachView]
          omega
      | dropView | close =>
          simp [apply, dropView, close]

theorem lt_length_views_apply
    {log : Log} {n : Nat}
    (hn : n < log.views.length)
    (op : Operation) :
    n < (log.apply op).views.length := by
  have hlength : (log.apply op).views.length = _ := length_views_applyAll log [op]
  omega

theorem lt_length_views_of_watches
    {log : Log} {n : Nat}
    (h : log.Watches n) :
    n < log.views.length := by
  obtain ⟨-, v, hv, -⟩ := h
  exact (List.getElem?_eq_some_iff.1 hv).1

/-- The view that is attached is the new one. -/
theorem not_watches_attachView
    {log : Log} {n : Nat}
    (hn : n < log.views.length) :
    ¬log.attachView.Watches n := by
  rintro ⟨hattached, -⟩
  have hlast : log.views.length = n := Option.some.inj hattached
  omega

theorem received?_of_attachView
    {log : Log} {n : Nat}
    (hn : n < log.views.length) :
    log.attachView.received? n = log.received? n := by
  simp [received?, attachView, List.getElem?_append_left hn]

theorem not_watches_dropView (log : Log) (n : Nat) :
    ¬(log.dropView n).Watches n := by
  rintro ⟨-, v, hv, hkept⟩
  rw [dropView, List.getElem?_modify_eq] at hv
  obtain ⟨v', -, rfl⟩ := Option.map_eq_some_iff.1 hv
  cases hkept

/-- No other view is dropped, -/
theorem watches_dropView_iff
    {m n : Nat}
    (hm : m ≠ n)
    (log : Log) :
    (log.dropView m).Watches n ↔ log.Watches n := by
  simp [Watches, dropView, hm]

/-- and each keeps what it has received. -/
theorem received?_dropView (log : Log) (m n : Nat) :
    (log.dropView m).received? n = log.received? n := by
  by_cases hm : m = n
  · subst hm
    simp [received?, dropView, Function.comp_def]
  · simp [received?, dropView, hm]

/-- A view that is not attached, or is gone, takes no entry and does not come back. -/
theorem step_of_not_watches
    {log : Log} {n : Nat}
    (hn : n < log.views.length)
    (h : ¬log.Watches n)
    (op : Operation) :
    ¬(log.apply op).Watches n ∧ (log.apply op).received? n = log.received? n := by
  cases op with
  | append writes e =>
      rw [apply, append_eq]
      rcases toView_cases log e with
        ⟨hnone, hview⟩ | ⟨m, hm, -, hview⟩ | ⟨m, v, hm, hv, hkept, hview⟩
      · rw [hview]
        exact ⟨h, rfl⟩
      · rw [hview]
        refine ⟨?_, rfl⟩
        rintro ⟨hattached, -⟩
        cases hattached
      · have hother : m ≠ n := by
          rintro rfl
          exact h ⟨hm, v, hv, hkept⟩
        rw [hview]
        refine ⟨fun hwatches => hother ?_, ?_⟩
        · exact Option.some.inj (hm.symm.trans hwatches.1)
        · simp [received?, hother]
  | attachView =>
      exact ⟨not_watches_attachView hn, received?_of_attachView hn⟩
  | dropView m =>
      refine ⟨?_, received?_dropView log m n⟩
      by_cases hm : m = n
      · subst hm
        exact not_watches_dropView log m
      · exact fun hwatches => h ((watches_dropView_iff hm log).1 hwatches)
  | close =>
      exact ⟨h, rfl⟩

/-- A view that is attached takes each entry, and stays so unless the operation ends it. -/
theorem step_of_watches
    {log : Log} {n : Nat}
    (h : log.Watches n)
    (op : Operation) :
    ((log.apply op).Watches n ↔ op.keepsView n = true) ∧
      (log.apply op).received? n = (log.received? n).map (· ++ op.entry?.toList) := by
  have hn := lt_length_views_of_watches h
  cases op with
  | append writes e =>
      obtain ⟨hattached, v, hv, hkept⟩ := h
      have hview : log.toView e =
          { log with views := log.views.modify n fun v =>
            { v with received := v.received ++ [e] } } := by
        simp [toView, hattached, hv, hkept]
      rw [apply, append_eq, hview]
      refine ⟨iff_of_true
        ⟨hattached, { v with received := v.received ++ [e] }, ?_, hkept⟩ rfl, ?_⟩
      · simp [hv]
      · simp [received?, hv, Operation.entry?]
  | attachView =>
      refine ⟨iff_of_false (not_watches_attachView hn) (by simp [Operation.keepsView]), ?_⟩
      rw [apply, received?_of_attachView hn]
      simp [Operation.entry?]
  | dropView m =>
      refine ⟨?_, ?_⟩
      · by_cases hm : m = n
        · subst hm
          exact iff_of_false (not_watches_dropView log m) (by simp [Operation.keepsView])
        · exact iff_of_true ((watches_dropView_iff hm log).2 h)
            (by simp [Operation.keepsView, hm])
      · rw [apply, received?_dropView]
        simp [Operation.entry?]
  | close =>
      refine ⟨iff_of_true h rfl, ?_⟩
      simp [received?, apply, close, Operation.entry?, Function.comp_def]

theorem received?_of_not_watches
    {log : Log} {n : Nat}
    (hn : n < log.views.length)
    (h : ¬log.Watches n)
    (ops : List Operation) :
    (log.applyAll ops).received? n = log.received? n := by
  induction ops generalizing log with
  | nil =>
      rfl
  | cons op ops ih =>
      obtain ⟨hnext, hsame⟩ := step_of_not_watches hn h op
      rw [applyAll_cons, ih (lt_length_views_apply hn op) hnext, hsame]

/-- **An attached view takes the entries up to the first operation that ends it.** -/
theorem received?_of_watches
    {log : Log} {n : Nat}
    (h : log.Watches n)
    (ops : List Operation) :
    (log.applyAll ops).received? n =
      (log.received? n).map
        (· ++ Transcript.appended (ops.takeWhile (Operation.keepsView n))) := by
  induction ops generalizing log with
  | nil =>
      simp [applyAll, Transcript.appended]
  | cons op ops ih =>
      obtain ⟨hstays, htakes⟩ := step_of_watches h op
      rw [applyAll_cons]
      by_cases hkeeps : op.keepsView n = true
      · rw [ih (hstays.2 hkeeps), htakes, Option.map_map, List.takeWhile_cons_of_pos hkeeps]
        cases hentry : op.entry? <;> simp [Transcript.appended, hentry, Function.comp_def]
      · -- What ends a view puts no entry into the log.
        have hnone : op.entry? = none := by
          cases op with
          | append => exact absurd rfl hkeeps
          | _ => rfl
        have hn := lt_length_views_of_watches h
        rw [received?_of_not_watches (lt_length_views_apply hn op)
          (hkeeps ∘ hstays.1), htakes, List.takeWhile_cons_of_neg hkeeps, hnone]
        rfl

/-- A view that is attached takes the entries behind its attachment. -/
theorem received?_attachView (log : Log) (ops : List Operation) :
    (log.attachView.applyAll ops).received? log.views.length =
      some (Transcript.appended (ops.takeWhile (Operation.keepsView log.views.length))) := by
  have hlast : log.attachView.views[log.views.length]? = some {} := by
    simp [attachView]
  rw [received?_of_watches ⟨rfl, {}, hlast, rfl⟩, received?, hlast]
  rfl

/-! ### Outputs that do not see each other -/

/-- The log apart from its file. -/
def offFile (log : Log) : Log :=
  { log with file := none, written := [], diverted := [] }

/-- The log apart from its views. -/
def offViews (log : Log) : Log :=
  { log with views := [], attached := none }

theorem offFile_append (log : Log) (writes : Bool) (e : Stamped) :
    (log.append writes e).offFile = log.offFile.append true e := by
  have hconsole := toConsole_eq log none [] [] e
  have hview := toView_eq log none [] [] log.console e
  rw [append_eq, append_eq, offFile, offFile, hconsole, hview]
  rfl

theorem offViews_append (log : Log) (writes : Bool) (e : Stamped) :
    (log.append writes e).offViews = log.offViews.append writes e := by
  have hfile : log.offViews.toFile writes e = (log.toFile writes e).offViews := by
    obtain ⟨file, _⟩ := log
    cases file <;> cases writes <;> rfl
  have hconsole : (log.offViews.toConsole e).console = (log.toConsole e).console := by
    cases hecho : log.echo <;> simp [toConsole, offViews, hecho]
  rw [append_eq, append_eq, hfile, hconsole]
  rfl

/-- Apart from the file a log is as if nothing ever happened to a file. -/
theorem offFile_applyAll
    {log log' : Log}
    (h : log.offFile = log'.offFile)
    (ops : List Operation) :
    (log.applyAll ops).offFile =
      (log'.applyAll (ops.filterMap Operation.offFile?)).offFile := by
  induction ops generalizing log log' with
  | nil =>
      exact h
  | cons op ops ih =>
      rw [applyAll_cons]
      cases op with
      | append writes e =>
          exact ih (by rw [apply, apply, offFile_append, offFile_append, h])
      | attachView =>
          exact ih (congrArg attachView h)
      | dropView n =>
          exact ih (congrArg (dropView · n) h)
      | close =>
          exact ih h

/-- Apart from the views a log is as if there never were views. -/
theorem offViews_applyAll
    {log log' : Log}
    (h : log.offViews = log'.offViews)
    (ops : List Operation) :
    (log.applyAll ops).offViews =
      (log'.applyAll (ops.filter Operation.isOffViews)).offViews := by
  induction ops generalizing log log' with
  | nil =>
      exact h
  | cons op ops ih =>
      rw [applyAll_cons]
      cases op with
      | append writes e =>
          exact ih (by rw [apply, apply, offViews_append, offViews_append, h])
      | attachView | dropView =>
          exact ih h
      | close =>
          exact ih (congrArg close h)

end Log

/-! ### The laws -/

/-- What the outputs of a log hold after some operations. -/
structure OutputLaws (setup : Setup) (ops : List Operation) : Prop where
  /-- Every entry counts. -/
  size : (setup.log.applyAll ops).size = (appended ops).length
  /-- A history that is kept holds all entries in their order. -/
  entries : (setup.log.applyAll ops).entries = if setup.history then appended ops else []
  /-- The file holds a line for each entry in front of the first operation that ends it. -/
  file : ∀ path, setup.path = some path → (setup.log.applyAll ops).transcript =
    String.join ((appended (ops.takeWhile Operation.keepsFile)).map fun e => e.render ++ "\n")
  /-- The entry whose write fails goes to the error stream instead. -/
  diverted : ∀ path, setup.path = some path →
    (setup.log.applyAll ops).diverted = (lastDiverted ops).map Stamped.render
  /-- Without a file there is none. -/
  noFile : setup.path = none → (setup.log.applyAll ops).transcript = ""
  /-- The console shows every entry, or none. -/
  console : (setup.log.applyAll ops).console =
    if setup.echo then (appended ops).map Stamped.render else []
  /-- A view holds the entries behind its attachment, up to the first operation that ends
  it. -/
  view : ∀ before after, ops = before ++ .attachView :: after →
    (setup.log.applyAll ops).received? (before.count .attachView) =
      some (appended (after.takeWhile (Operation.keepsView (before.count .attachView))))
  /-- What happens to the file is nothing to the other outputs. -/
  offFile : (setup.log.applyAll ops).offFile =
    (setup.log.applyAll (ops.filterMap Operation.offFile?)).offFile
  /-- What happens to views is nothing to the other outputs. -/
  offViews : (setup.log.applyAll ops).offViews =
    (setup.log.applyAll (ops.filter Operation.isOffViews)).offViews

/-- **The outputs of a log stay consistent.** -/
theorem outputs_applyAll (setup : Setup) (ops : List Operation) :
    OutputLaws setup ops where
  size := by
    rw [Log.size, Log.appended_applyAll, Setup.log_eq, Nat.zero_add]
  entries := by
    rw [Log.entries, Log.history_applyAll, Setup.log_eq]
    cases setup.history <;> simp
  file := by
    intro path hpath
    have hopen : setup.log.file = some path := by
      rw [Setup.log_eq, hpath]
    rw [Log.transcript, (Log.written_of_open hopen ops).1, Setup.log_eq, List.nil_append,
      List.map_map]
    rfl
  diverted := by
    intro path hpath
    have hopen : setup.log.file = some path := by
      rw [Setup.log_eq, hpath]
    rw [(Log.written_of_open hopen ops).2, Setup.log_eq, List.nil_append]
  noFile := by
    intro hpath
    have hclosed : setup.log.file = none := by
      rw [Setup.log_eq, hpath]
    rw [Log.transcript, (Log.written_of_closed hclosed ops).1, Setup.log_eq]
    rfl
  console := by
    rw [Log.console_applyAll, Setup.log_eq, List.nil_append]
  view := by
    rintro before after rfl
    have hlength : (setup.log.applyAll before).views.length = before.count .attachView := by
      rw [Log.length_views_applyAll, Setup.log_eq, List.length_nil, Nat.zero_add]
    have hview := Log.received?_attachView (setup.log.applyAll before) after
    rw [hlength] at hview
    rw [Log.applyAll_append]
    exact hview
  offFile := Log.offFile_applyAll rfl ops
  offViews := Log.offViews_applyAll rfl ops

end Transcript
end SmppReplay
