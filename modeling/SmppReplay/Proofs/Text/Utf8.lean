import SmppReplay.Text.Utf8
import Mathlib.Tactic

/-!
# Writing and reading UTF-8

Reading what was written gives the text back, and the only character whose octets hold a
zero is NUL.  Both are proved one character at a time: the reader, started between
characters, takes the octets of a character and stands between characters again.

Octets that were not written by this library may be ill formed.  Still no NUL comes of
octets other than zero: what the reader expects inside a character (`Expect.Regular`) always
leads to another character.

Main facts:
* `decodeLossy_encode`: a written text reads back, and nothing in it is replaced;
* `zero_mem_encode_iff`: the octets of a text hold a zero iff the text holds a NUL;
* `takeWhile_encode`: the octets before the first zero write the text before the first NUL;
* `nul_notMem_decodeLossy`: octets without a zero are read as a text without a NUL.
-/

namespace SmppReplay
namespace Text
namespace Utf8

/-- The last octet of a character. -/
theorem scan_last
    {acc n : Nat} {lo hi : UInt8} (bs : List UInt8)
    (hn : n < 64)
    (hlo : lo.toNat ≤ n + 0x80)
    (hhi : n + 0x80 ≤ hi.toNat) :
    scan (.cont acc lo hi 0) (UInt8.ofNat (n + 0x80) :: bs) =
      some (Char.ofNat (acc * 64 + n)) :: scan .lead bs := by
  have hb : (UInt8.ofNat (n + 0x80)).toNat = n + 0x80 := by
    simp
    omega
  have hrange : lo ≤ UInt8.ofNat (n + 0x80) ∧ UInt8.ofNat (n + 0x80) ≤ hi := by
    rw [UInt8.le_iff_toNat_le, UInt8.le_iff_toNat_le, hb]
    exact ⟨hlo, hhi⟩
  have hstep : step (.cont acc lo hi 0) (UInt8.ofNat (n + 0x80)) =
      ([some (Char.ofNat (acc * 64 + n))], .lead) := by
    simp only [step, hrange, and_self, if_true, hb]
    simp
  rw [scan, hstep]
  rfl

/-- An octet of a character with others to follow. -/
theorem scan_inner
    {acc n k : Nat} {lo hi : UInt8} (bs : List UInt8)
    (hn : n < 64)
    (hlo : lo.toNat ≤ n + 0x80)
    (hhi : n + 0x80 ≤ hi.toNat) :
    scan (.cont acc lo hi (k + 1)) (UInt8.ofNat (n + 0x80) :: bs) =
      scan (.cont (acc * 64 + n) 0x80 0xBF k) bs := by
  have hb : (UInt8.ofNat (n + 0x80)).toNat = n + 0x80 := by
    simp
    omega
  have hrange : lo ≤ UInt8.ofNat (n + 0x80) ∧ UInt8.ofNat (n + 0x80) ≤ hi := by
    rw [UInt8.le_iff_toNat_le, UInt8.le_iff_toNat_le, hb]
    exact ⟨hlo, hhi⟩
  have hstep : step (.cont acc lo hi (k + 1)) (UInt8.ofNat (n + 0x80)) =
      ([], .cont (acc * 64 + n) 0x80 0xBF k) := by
    simp only [step, hrange, and_self, if_true, hb]
    simp
  rw [scan, hstep]
  rfl

/-- The first octet of a character, by its number. -/
theorem stepLead_ofNat {n : Nat} (hn : n < 256) :
    stepLead (UInt8.ofNat n) =
      if n < 0x80 then ([some (Char.ofNat n)], .lead)
      else if n < 0xC2 then ([none], .lead)
      else if n < 0xE0 then ([], .cont (n - 0xC0) 0x80 0xBF 0)
      else if n = 0xE0 then ([], .cont 0 0xA0 0xBF 1)
      else if n = 0xED then ([], .cont 0xD 0x80 0x9F 1)
      else if n < 0xF0 then ([], .cont (n - 0xE0) 0x80 0xBF 1)
      else if n = 0xF0 then ([], .cont 0 0x90 0xBF 2)
      else if n < 0xF4 then ([], .cont (n - 0xF0) 0x80 0xBF 2)
      else if n = 0xF4 then ([], .cont 4 0x80 0x8F 2)
      else ([none], .lead) := by
  have hb : (UInt8.ofNat n).toNat = n := by
    simp
    omega
  simp only [stepLead, UInt8.lt_iff_toNat_lt, ← UInt8.toNat_inj, hb]
  rfl

/-- A first octet of a character that is longer than one octet. -/
theorem scan_lead
    {n : Nat} {e : Expect} (bs : List UInt8)
    (he : stepLead (UInt8.ofNat n) = ([], e)) :
    scan .lead (UInt8.ofNat n :: bs) = scan e bs := by
  rw [scan, step, he]
  rfl

/-- The last two octets of a character. -/
theorem scan_last_two
    {acc m n : Nat} {lo hi : UInt8} (bs : List UInt8)
    (hm : m < 64)
    (hn : n < 64)
    (hlo : lo.toNat ≤ m + 0x80)
    (hhi : m + 0x80 ≤ hi.toNat) :
    scan (.cont acc lo hi 1) (UInt8.ofNat (m + 0x80) :: UInt8.ofNat (n + 0x80) :: bs) =
      some (Char.ofNat ((acc * 64 + m) * 64 + n)) :: scan .lead bs := by
  rw [scan_inner _ hm hlo hhi, scan_last bs hn]
  · simp
  · simp
    omega

/-- The reader takes the octets of a character. -/
theorem scan_utf8EncodeChar (c : Char) (bs : List UInt8) :
    scan .lead (String.utf8EncodeChar c ++ bs) = some c :: scan .lead bs := by
  have hc : Char.ofNat c.val.toNat = c := Char.ofNat_toNat c
  have hvalid : c.val.toNat < 0xD800 ∨ 0xDFFF < c.val.toNat ∧
      c.val.toNat < 0x110000 := c.valid
  generalize hv : c.val.toNat = v at hc hvalid
  have hlow : v % 0x40 < 64 := by omega
  have hmiddle : v / 64 % 0x40 < 64 := by omega
  have hhigh : v / 4096 % 0x40 < 64 := by omega
  unfold String.utf8EncodeChar
  simp only [hv]
  split_ifs with h1 h2 h3
  · -- one octet
    rw [List.singleton_append, scan, step, stepLead_ofNat (by omega), if_pos (by omega), hc]
    rfl
  · -- two octets
    have hlead : stepLead (UInt8.ofNat (v / 64 % 0x20 + 0xC0)) =
        ([], .cont (v / 64) 0x80 0xBF 0) := by
      rw [show v / 64 % 0x20 + 0xC0 = v / 64 + 0xC0 by omega, stepLead_ofNat (by omega),
        if_neg (by omega), if_neg (by omega), if_pos (by omega), Nat.add_sub_cancel]
    rw [List.cons_append, List.singleton_append, scan_lead _ hlead,
      scan_last bs hlow (by simp) (by simp; omega)]
    rw [show v / 64 * 64 + v % 0x40 = v by omega, hc]
  · -- three octets: the range of the second one depends on the first
    have hsum : (v / 4096 * 64 + v / 64 % 0x40) * 64 + v % 0x40 = v := by omega
    simp only [List.cons_append, List.nil_append]
    by_cases hE0 : v / 4096 = 0
    · have hlead : stepLead (UInt8.ofNat (v / 4096 % 0x10 + 0xE0)) =
          ([], .cont (v / 4096) 0xA0 0xBF 1) := by
        rw [hE0]
        decide
      rw [scan_lead _ hlead,
        scan_last_two bs hmiddle hlow (by simp; omega) (by simp; omega), hsum, hc]
    · by_cases hED : v / 4096 = 0xD
      · have hlead : stepLead (UInt8.ofNat (v / 4096 % 0x10 + 0xE0)) =
            ([], .cont (v / 4096) 0x80 0x9F 1) := by
          rw [hED]
          decide
        rw [scan_lead _ hlead,
          scan_last_two bs hmiddle hlow (by simp) (by simp; omega), hsum, hc]
      · have hlead : stepLead (UInt8.ofNat (v / 4096 % 0x10 + 0xE0)) =
            ([], .cont (v / 4096) 0x80 0xBF 1) := by
          rw [show v / 4096 % 0x10 + 0xE0 = v / 4096 + 0xE0 by omega,
            stepLead_ofNat (by omega), if_neg (by omega), if_neg (by omega), if_neg (by omega),
            if_neg (by omega), if_neg (by omega), if_pos (by omega), Nat.add_sub_cancel]
        rw [scan_lead _ hlead,
          scan_last_two bs hmiddle hlow (by simp) (by simp; omega), hsum, hc]
  · -- four octets: likewise
    have hsum : ((v / 262144 * 64 + v / 4096 % 0x40) * 64 + v / 64 % 0x40) * 64 + v % 0x40 =
        v := by
      omega
    simp only [List.cons_append, List.nil_append]
    by_cases hF0 : v / 262144 = 0
    · have hlead : stepLead (UInt8.ofNat (v / 262144 % 0x08 + 0xF0)) =
          ([], .cont (v / 262144) 0x90 0xBF 2) := by
        rw [hF0]
        decide
      rw [scan_lead _ hlead, scan_inner _ hhigh (by simp; omega) (by simp; omega),
        scan_last_two bs hmiddle hlow (by simp) (by simp; omega), hsum, hc]
    · by_cases hF4 : v / 262144 = 4
      · have hlead : stepLead (UInt8.ofNat (v / 262144 % 0x08 + 0xF0)) =
            ([], .cont (v / 262144) 0x80 0x8F 2) := by
          rw [hF4]
          decide
        rw [scan_lead _ hlead, scan_inner _ hhigh (by simp) (by simp; omega),
          scan_last_two bs hmiddle hlow (by simp) (by simp; omega), hsum, hc]
      · have hlead : stepLead (UInt8.ofNat (v / 262144 % 0x08 + 0xF0)) =
            ([], .cont (v / 262144) 0x80 0xBF 2) := by
          rw [show v / 262144 % 0x08 + 0xF0 = v / 262144 + 0xF0 by omega,
            stepLead_ofNat (by omega), if_neg (by omega), if_neg (by omega),
            if_neg (by omega), if_neg (by omega), if_neg (by omega), if_neg (by omega),
            if_neg (by omega), if_pos (by omega), Nat.add_sub_cancel]
        rw [scan_lead _ hlead, scan_inner _ hhigh (by simp) (by simp; omega),
          scan_last_two bs hmiddle hlow (by simp) (by simp; omega), hsum, hc]

/-- The reader takes the octets of some characters. -/
theorem scan_flatMap_utf8EncodeChar (cs : List Char) (bs : List UInt8) :
    scan .lead (cs.flatMap String.utf8EncodeChar ++ bs) = cs.map some ++ scan .lead bs := by
  induction cs with
  | nil =>
      rfl
  | cons c cs ih =>
      rw [List.flatMap_cons, List.append_assoc, scan_utf8EncodeChar, ih]
      rfl

/-- **A written text reads back.** -/
theorem decodeLossy_encode (s : String) :
    decodeLossy (encode s) = s := by
  have hscan := scan_flatMap_utf8EncodeChar s.toList []
  rw [List.append_nil] at hscan
  have hpieces : scan .lead (encode s) = s.toList.map some := by
    rw [encode, hscan]
    simp [scan]
  rw [decodeLossy, hpieces]
  simp

theorem encode_append (s t : String) :
    encode (s ++ t) = encode s ++ encode t := by
  simp [encode]

theorem encode_join (ss : List String) :
    encode (String.join ss) = ss.flatMap encode := by
  rw [encode, String.toList_join, List.flatMap_assoc]
  rfl

/-- The octets of some lines, each with a line feed behind it. -/
theorem encode_lines (lines : List String) :
    encode (String.join (lines.map (· ++ "\n"))) = lines.flatMap fun s =>
      encode s ++ [10] := by
  have hline : ∀ s, encode (s ++ "\n") = encode s ++ [10] :=
    fun s => encode_append s "\n"
  rw [encode_join, List.flatMap_map]
  simp only [hline]

/-- Only NUL has an octet that is zero. -/
theorem zero_notMem_utf8EncodeChar
    {c : Char}
    (hc : c ≠ '\x00') :
    0 ∉ String.utf8EncodeChar c := by
  have hpos : c.val.toNat ≠ 0 := by
    intro h
    apply hc
    rw [← Char.ofNat_toNat c]
    exact congrArg Char.ofNat h
  have hmax : c.val.toNat < 0x110000 := by
    have hvalid : c.val.toNat < 0xD800 ∨ 0xDFFF < c.val.toNat ∧
        c.val.toNat < 0x110000 := c.valid
    omega
  have hne : ∀ n, n ≠ 0 → n < 256 → (0 : UInt8) ≠ UInt8.ofNat n := by
    intro n h0 hn h
    have := congrArg UInt8.toNat h
    simp at this
    omega
  unfold String.utf8EncodeChar
  generalize c.val.toNat = v at hpos hmax
  simp only
  split_ifs <;> simp only [List.mem_cons, List.not_mem_nil, or_false, not_or]
  · exact hne _ hpos (by omega)
  · exact ⟨hne _ (by omega) (by omega), hne _ (by omega) (by omega)⟩
  · exact ⟨hne _ (by omega) (by omega), hne _ (by omega) (by omega),
      hne _ (by omega) (by omega)⟩
  · exact ⟨hne _ (by omega) (by omega), hne _ (by omega) (by omega),
      hne _ (by omega) (by omega),
      hne _ (by omega) (by omega)⟩

/-- **The octets before the first zero write the text before the first NUL.** -/
theorem takeWhile_encode (s : String) :
    (encode s).takeWhile (· != 0) =
      encode (String.ofList (s.toList.takeWhile (· != '\x00'))) := by
  simp only [encode, String.toList_ofList]
  induction s.toList with
  | nil =>
      rfl
  | cons c cs ih =>
      by_cases hc : c = '\x00'
      · subst hc
        rfl
      · have hall : ∀ b ∈ String.utf8EncodeChar c, (b != 0) = true := by
          intro b hb
          rw [bne_iff_ne]
          rintro rfl
          exact zero_notMem_utf8EncodeChar hc hb
        rw [List.flatMap_cons, List.takeWhile_append_of_pos hall, ih,
          List.takeWhile_cons_of_pos (by simpa using hc), List.flatMap_cons]

theorem zero_mem_encode_iff (s : String) :
    0 ∈ encode s ↔ '\x00' ∈ s.toList := by
  rw [encode, List.mem_flatMap]
  constructor
  · rintro ⟨c, hc, hzero⟩
    by_cases h : c = '\x00'
    · exact h ▸ hc
    · exact absurd hzero (zero_notMem_utf8EncodeChar h)
  · intro h
    exact ⟨_, h, by decide⟩

/-! ### Reading without a zero -/

/-- The weight of a place behind which some octets of a character are still to come. -/
def weight : Nat → Nat
  | 0 => 1
  | n + 1 => 64 * weight n

/-- The numbers that can still come of a character are those of characters, and none is
zero. -/
def Expect.Regular : Expect → Prop
  | .lead => True
  | .cont acc lo hi rest =>
      0x80 ≤ lo.toNat ∧
        (0 < (acc * 64 + (lo.toNat - 0x80)) * weight rest ∧
            (acc * 64 + (hi.toNat - 0x80) + 1) * weight rest ≤ 0xD800 ∨
          0xE000 ≤ (acc * 64 + (lo.toNat - 0x80)) * weight rest ∧
            (acc * 64 + (hi.toNat - 0x80) + 1) * weight rest ≤ 0x110000)

theorem ofNat_ne_nul
    {n : Nat}
    (h : 0 < n ∧ n < 0xD800 ∨ 0xE000 ≤ n ∧ n < 0x110000) :
    Char.ofNat n ≠ '\x00' := by
  have hvalid : n.isValidChar := by
    unfold Nat.isValidChar
    omega
  intro hn
  have hzero : (Char.ofNat n).val = 0 := congrArg Char.val hn
  rw [Char.ofNat, dif_pos hvalid] at hzero
  have hnat : n = 0 := congrArg UInt32.toNat hzero
  omega

/-- An octet that may be the first one of a character. -/
theorem regular_stepLead (b : UInt8) :
    (stepLead b).2.Regular ∧ (some '\x00' ∈ (stepLead b).1 → b = 0) := by
  have hb : b.toNat < 256 := b.toNat_lt
  unfold stepLead
  split_ifs <;>
    simp only [UInt8.lt_iff_toNat_lt, ← UInt8.toNat_inj, UInt8.reduceToNat] at *
  · refine ⟨trivial, fun h => ?_⟩
    by_contra hne
    exact ofNat_ne_nul (by omega) (Option.some.inj (List.mem_singleton.1 h)).symm
  all_goals
    simp [Expect.Regular, weight]
    try omega

/-- A zero octet is the only one with which the reader comes to a NUL. -/
theorem regular_step
    {e : Expect} {b : UInt8}
    (he : e.Regular) :
    (step e b).2.Regular ∧ (some '\x00' ∈ (step e b).1 → b = 0) := by
  cases e with
  | lead =>
      exact regular_stepLead b
  | cont acc lo hi rest =>
      obtain ⟨hlo, hrange⟩ := he
      simp only [step]
      split_ifs with hb
      · rw [UInt8.le_iff_toNat_le, UInt8.le_iff_toNat_le] at hb
        -- What was read so far and the octet lie between the two ends.
        have hlow : ∀ k, (acc * 64 + (lo.toNat - 0x80)) * weight k ≤
            (acc * 64 + (b.toNat - 0x80)) * weight k :=
          fun k => Nat.mul_le_mul_right _ (by omega)
        have hhigh : ∀ k, (acc * 64 + (b.toNat - 0x80) + 1) * weight k ≤
            (acc * 64 + (hi.toNat - 0x80) + 1) * weight k :=
          fun k => Nat.mul_le_mul_right _ (by omega)
        cases rest with
        | zero =>
            specialize hlow 0
            specialize hhigh 0
            simp only [weight, Nat.mul_one] at hrange hlow hhigh
            refine ⟨trivial, fun h =>
              absurd (Option.some.inj (List.mem_singleton.1 h)).symm ?_⟩
            exact ofNat_ne_nul (by omega)
        | succ k =>
            specialize hlow (k + 1)
            specialize hhigh (k + 1)
            have hnext : ∀ n, (n * 64 + 63 + 1) * weight k = (n + 1) * weight (k + 1) ∧
                n * 64 * weight k = n * weight (k + 1) := by
              intro n
              constructor <;> rw [weight] <;> ring
            obtain ⟨hnext, hnext'⟩ := hnext (acc * 64 + (b.toNat - 0x80))
            refine ⟨⟨by decide, ?_⟩, fun h => nomatch h⟩
            simp only [UInt8.reduceToNat, Nat.sub_self, Nat.add_zero, Nat.reduceSub]
            rw [hnext, hnext']
            omega
      · obtain ⟨hregular, hnul⟩ := regular_stepLead b
        exact ⟨hregular, fun h => hnul (by simpa using h)⟩

theorem nul_notMem_scan
    {e : Expect} {bs : List UInt8}
    (he : e.Regular)
    (hbs : 0 ∉ bs) :
    some '\x00' ∉ scan e bs := by
  induction bs generalizing e with
  | nil =>
      cases e <;> simp [scan]
  | cons b bs ih =>
      obtain ⟨hregular, hnul⟩ := regular_step (b := b) he
      obtain ⟨hb, hbs⟩ := not_or.1 (List.mem_cons.not.1 hbs)
      rw [scan, List.mem_append, not_or]
      exact ⟨fun h => hb (hnul h).symm, ih hregular hbs⟩

/-- **Octets without a zero are read as a text without a NUL**, also where they are ill
formed. -/
theorem nul_notMem_decodeLossy
    {bs : List UInt8}
    (h : 0 ∉ bs) :
    '\x00' ∉ (decodeLossy bs).toList := by
  rw [decodeLossy, String.toList_ofList, List.mem_map]
  rintro ⟨piece, hpiece, hnul⟩
  cases piece with
  | none =>
      exact absurd hnul (by decide)
  | some c =>
      obtain rfl : c = '\x00' := hnul
      exact nul_notMem_scan (e := .lead) trivial h hpiece

end Utf8
end Text
end SmppReplay
