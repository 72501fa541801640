import DiagnosticMarkers.Text.Utf8
import Mathlib.Data.List.Basic

/-!
# Octets and characters

Octets can be read exactly if they are those of some text, and then that text is read. The octets
of a character are a row, which is told by the bounds of its octets. Reading takes the first octet
of a row, and then those that complete the pending character.
-/

namespace DiagnosticMarkers.Utf8

/-- The octets of a text. -/
def encode (text : Text) : List UInt8 :=
  text.flatMap String.utf8EncodeChar

variable {p : Pending} {octet : UInt8} {octets front tail : List UInt8}
variable {position n : Nat} {text : Text}

/-! ## The rows of characters -/

/-- An octet behind the first of a row. -/
def IsTail (octet : UInt8) : Prop :=
  0x80 ≤ octet.toNat ∧ octet.toNat ≤ 0xBF

/-- The octets of a character, with its number. The bounds leave out longer rows for small
numbers, surrogates, and numbers above the last code point. -/
inductive Row : List UInt8 → Nat → Prop
  | one {a : UInt8} (ha : a.toNat < 0x80) : Row [a] a.toNat
  | two {a b : UInt8} (ha : 0xC2 ≤ a.toNat ∧ a.toNat < 0xE0) (hb : IsTail b) :
    Row [a, b] ((a.toNat - 0xC0) * 64 + (b.toNat - 0x80))
  | three {a b c : UInt8} (ha : 0xE0 ≤ a.toNat ∧ a.toNat < 0xF0) (hb : IsTail b)
      (hlow : a.toNat = 0xE0 → 0xA0 ≤ b.toNat) (hhigh : a.toNat = 0xED → b.toNat ≤ 0x9F)
      (hc : IsTail c) :
    Row [a, b, c] (((a.toNat - 0xE0) * 64 + (b.toNat - 0x80)) * 64 + (c.toNat - 0x80))
  | four {a b c d : UInt8} (ha : 0xF0 ≤ a.toNat ∧ a.toNat < 0xF5) (hb : IsTail b)
      (hlow : a.toNat = 0xF0 → 0x90 ≤ b.toNat) (hhigh : a.toNat = 0xF4 → b.toNat ≤ 0x8F)
      (hc : IsTail c) (hd : IsTail d) :
    Row [a, b, c, d] ((((a.toNat - 0xF0) * 64 + (b.toNat - 0x80)) * 64 + (c.toNat - 0x80)) * 64 +
      (d.toNat - 0x80))

theorem exists_octet {m : Nat} (h : m < 256) : ∃ octet : UInt8, octet.toNat = m :=
  ⟨UInt8.ofNat m, by rw [UInt8.toNat_ofNat', Nat.mod_eq_of_lt h]⟩

namespace Row

theorem isValidChar (h : Row octets n) : n.isValidChar := by
  unfold Nat.isValidChar
  cases h with
  | one ha => omega
  | two ha hb =>
    unfold IsTail at hb
    omega
  | three ha hb hlow hhigh hc =>
    unfold IsTail at hb hc
    omega
  | four ha hb hlow hhigh hc hd =>
    unfold IsTail at hb hc hd
    omega

theorem eq_utf8EncodeChar (h : Row octets n) : octets = String.utf8EncodeChar (Char.ofNat n) := by
  have hn : (Char.ofNat n).val.toNat = n := by
    rw [Char.ofNat, dif_pos h.isValidChar]
    rfl
  unfold String.utf8EncodeChar
  simp only [hn]
  cases h with
  | one ha => rw [if_pos (by omega), UInt8.ofNat_toNat]
  | two ha hb =>
    unfold IsTail at hb
    rw [if_neg (by omega), if_pos (by omega)]
    simp only [List.cons.injEq, and_true, ← UInt8.toNat_inj, UInt8.toNat_ofNat']
    omega
  | three ha hb hlow hhigh hc =>
    unfold IsTail at hb hc
    rw [if_neg (by omega), if_neg (by omega), if_pos (by omega)]
    simp only [List.cons.injEq, and_true, ← UInt8.toNat_inj, UInt8.toNat_ofNat']
    omega
  | four ha hb hlow hhigh hc hd =>
    unfold IsTail at hb hc hd
    rw [if_neg (by omega), if_neg (by omega), if_neg (by omega)]
    simp only [List.cons.injEq, and_true, ← UInt8.toNat_inj, UInt8.toNat_ofNat']
    omega

theorem exists_of_isValidChar (h : n.isValidChar) : ∃ octets, Row octets n := by
  unfold Nat.isValidChar at h
  -- The last octet holds six bits, whatever the number of octets.
  obtain ⟨last, hlast⟩ := exists_octet (show 0x80 + n % 64 < 256 by omega)
  have htail : IsTail last := by
    unfold IsTail
    omega
  by_cases hone : n < 0x80
  · obtain ⟨a, rfl⟩ := exists_octet (show n < 256 by omega)
    exact ⟨[a], .one hone⟩
  by_cases htwo : n < 0x800
  · obtain ⟨a, ha⟩ := exists_octet (show 0xC0 + n / 64 < 256 by omega)
    refine ⟨[a, last], ?_⟩
    rw [show n = (a.toNat - 0xC0) * 64 + (last.toNat - 0x80) by omega]
    exact .two (by omega) htail
  by_cases hthree : n < 0x10000
  · obtain ⟨a, ha⟩ := exists_octet (show 0xE0 + n / 4096 < 256 by omega)
    obtain ⟨b, hb⟩ := exists_octet (show 0x80 + n / 64 % 64 < 256 by omega)
    refine ⟨[a, b, last], ?_⟩
    rw [show n = ((a.toNat - 0xE0) * 64 + (b.toNat - 0x80)) * 64 + (last.toNat - 0x80) by omega]
    exact .three (by omega) (by unfold IsTail; omega) (by omega) (by omega) htail
  · obtain ⟨a, ha⟩ := exists_octet (show 0xF0 + n / 262144 < 256 by omega)
    obtain ⟨b, hb⟩ := exists_octet (show 0x80 + n / 4096 % 64 < 256 by omega)
    obtain ⟨c, hc⟩ := exists_octet (show 0x80 + n / 64 % 64 < 256 by omega)
    refine ⟨[a, b, c, last], ?_⟩
    rw [show n = (((a.toNat - 0xF0) * 64 + (b.toNat - 0x80)) * 64 + (c.toNat - 0x80)) * 64 +
      (last.toNat - 0x80) by omega]
    exact .four (by omega) (by unfold IsTail; omega) (by omega) (by omega)
      (by unfold IsTail; omega) htail

/-- The octets of a character are a row. -/
theorem of_char (c : Char) : Row (String.utf8EncodeChar c) c.toNat := by
  obtain ⟨octets, hrow⟩ := exists_of_isValidChar (show c.toNat.isValidChar from c.valid)
  rwa [hrow.eq_utf8EncodeChar, Char.ofNat_toNat] at hrow

end Row

/-! ## Completing a character -/

namespace Pending

/-- The number of a pending character with one more octet. -/
def number (p : Pending) (octet : UInt8) : Nat :=
  p.value * 64 + (octet.toNat - 0x80)

/-- What is pending with one more octet. -/
def push (p : Pending) (octet : UInt8) : Pending :=
  ⟨p.start, p.octet, p.count + 1, p.missing - 1, p.number octet, 0x80, 0xBF⟩

/-- The octet may come next. -/
def Takes (p : Pending) (octet : UInt8) : Prop :=
  p.low ≤ octet.toNat ∧ octet.toNat ≤ p.high

end Pending

/-- The octets complete the pending character to that with the number. -/
inductive Completes : Pending → List UInt8 → Nat → Prop
  | last {p : Pending} {octet : UInt8} (hmissing : p.missing = 1) (htakes : p.Takes octet) :
    Completes p [octet] (p.number octet)
  | more {p : Pending} {octet : UInt8} {tail : List UInt8} {n : Nat} (hmissing : p.missing ≠ 1)
      (htakes : p.Takes octet) (htail : Completes (p.push octet) tail n) :
    Completes p (octet :: tail) n

theorem decodeFrom_of_last (hmissing : p.missing = 1) (htakes : p.Takes octet) (position : Nat)
    (behind : List UInt8) :
    decodeFrom position (some p) (octet :: behind) =
      (decodeFrom (position + 1) none behind).map (Char.ofNat (p.number octet) :: ·) := by
  rw [decodeFrom, if_pos (by simpa [Pending.Takes] using htakes), if_pos hmissing]
  rfl

theorem decodeFrom_of_more (hmissing : p.missing ≠ 1) (htakes : p.Takes octet) (position : Nat)
    (behind : List UInt8) :
    decodeFrom position (some p) (octet :: behind) =
      decodeFrom (position + 1) (some (p.push octet)) behind := by
  rw [decodeFrom, if_pos (by simpa [Pending.Takes] using htakes), if_neg hmissing]
  rfl

theorem decodeFrom_of_not_takes (h : ¬ p.Takes octet) (position : Nat) (behind : List UInt8) :
    decodeFrom position (some p) (octet :: behind) = .error (p.fault .invalidContinuation) := by
  rw [decodeFrom, if_neg (by simpa [Pending.Takes] using h)]

theorem Completes.decodeFrom_append (h : Completes p tail n) (position : Nat)
    (behind : List UInt8) :
    decodeFrom position (some p) (tail ++ behind) =
      (decodeFrom (position + tail.length) none behind).map (Char.ofNat n :: ·) := by
  induction h generalizing position with
  | last hmissing htakes => exact decodeFrom_of_last hmissing htakes position behind
  | more hmissing htakes _ ih =>
    rw [List.cons_append, decodeFrom_of_more hmissing htakes, ih, List.length_cons, Nat.add_assoc,
      Nat.add_comm 1]

theorem exists_of_map_cons {c : Char} {found : Except Fault Text}
    (h : found.map (c :: ·) = .ok text) : ∃ rest, found = .ok rest ∧ text = c :: rest := by
  cases found with
  | error fault => cases h
  | ok rest => exact ⟨rest, rfl, (Except.ok.inj h).symm⟩

/-- A pending character is read only if the octets that come next complete it. -/
theorem exists_completes_of_decodeFrom (h : decodeFrom position (some p) octets = .ok text) :
    ∃ tail behind n rest, octets = tail ++ behind ∧ Completes p tail n ∧
      text = Char.ofNat n :: rest ∧
      decodeFrom (position + tail.length) none behind = .ok rest := by
  induction octets generalizing position p with
  | nil => cases h
  | cons octet octets ih =>
    by_cases htakes : p.Takes octet
    · by_cases hmissing : p.missing = 1
      · rw [decodeFrom_of_last hmissing htakes] at h
        obtain ⟨rest, hrest, htext⟩ := exists_of_map_cons h
        exact ⟨[octet], octets, _, rest, rfl, .last hmissing htakes, htext, hrest⟩
      · rw [decodeFrom_of_more hmissing htakes] at h
        obtain ⟨tail, behind, n, rest, rfl, htail, htext, hrest⟩ := ih h
        refine ⟨octet :: tail, behind, n, rest, rfl, .more hmissing htakes htail, htext, ?_⟩
        rwa [List.length_cons, Nat.add_comm tail.length, ← Nat.add_assoc]
    · rw [decodeFrom_of_not_takes htakes] at h
      cases h

/-! ## Reading a row -/

theorem lead_of_lt (h : octet.toNat < 0x80) (position : Nat) :
    lead position octet = .char (Char.ofNat octet.toNat) := by
  rw [lead, if_pos h]

theorem lead_two (h : 0xC2 ≤ octet.toNat ∧ octet.toNat < 0xE0) (position : Nat) :
    lead position octet =
      .pending ⟨position, octet, 1, 1, octet.toNat - 0xC0, 0x80, 0xBF⟩ := by
  rw [lead, if_neg (by omega), if_neg (by omega), if_pos h.2]

theorem lead_three (h : 0xE0 ≤ octet.toNat ∧ octet.toNat < 0xF0) (position : Nat) :
    lead position octet =
      .pending ⟨position, octet, 1, 2, octet.toNat - 0xE0,
        if octet.toNat = 0xE0 then 0xA0 else 0x80, if octet.toNat = 0xED then 0x9F else 0xBF⟩ := by
  rw [lead, if_neg (by omega), if_neg (by omega), if_neg (by omega), if_pos h.2]

theorem lead_four (h : 0xF0 ≤ octet.toNat ∧ octet.toNat < 0xF5) (position : Nat) :
    lead position octet =
      .pending ⟨position, octet, 1, 3, octet.toNat - 0xF0,
        if octet.toNat = 0xF0 then 0x90 else 0x80, if octet.toNat = 0xF4 then 0x8F else 0xBF⟩ := by
  rw [lead, if_neg (by omega), if_neg (by omega), if_neg (by omega), if_neg (by omega),
    if_pos h.2]

theorem lead_invalid (h : 0x80 ≤ octet.toNat ∧ octet.toNat < 0xC2 ∨ 0xF5 ≤ octet.toNat)
    (position : Nat) : lead position octet = .invalid := by
  unfold lead
  dsimp only
  split
  · omega
  split
  · rfl
  rw [if_neg (by omega), if_neg (by omega), if_neg (by omega)]

/-- The bounds of the second octet are narrower behind two of the first ones. -/
theorem second_iff {a b first low last high : Nat} (hlow : 0x80 ≤ low) (hhigh : high ≤ 0xBF) :
    ((if a = first then low else 0x80) ≤ b ∧ b ≤ if a = last then high else 0xBF) ↔
      (0x80 ≤ b ∧ b ≤ 0xBF) ∧ (a = first → low ≤ b) ∧ (a = last → b ≤ high) := by
  split <;> split <;> omega

/-- An octet is a character, leaves one pending, or begins none. -/
theorem octet_cases (octet : UInt8) :
    octet.toNat < 0x80 ∨ (0xC2 ≤ octet.toNat ∧ octet.toNat < 0xE0) ∨
      (0xE0 ≤ octet.toNat ∧ octet.toNat < 0xF0) ∨ (0xF0 ≤ octet.toNat ∧ octet.toNat < 0xF5) ∨
      (0x80 ≤ octet.toNat ∧ octet.toNat < 0xC2 ∨ 0xF5 ≤ octet.toNat) := by
  omega

/-- A first octet that leaves a character pending begins the rows with the octets that complete
it. -/
theorem row_cons_iff (position : Nat) :
    Row (octet :: tail) n ↔
      (octet.toNat < 0x80 ∧ tail = [] ∧ n = octet.toNat) ∨
        ∃ p, lead position octet = .pending p ∧ Completes p tail n := by
  constructor
  · intro h
    cases h with
    | one ha => exact .inl ⟨ha, rfl, rfl⟩
    | two ha hb => exact .inr ⟨_, lead_two ha position, .last rfl hb⟩
    | three ha hb hlow hhigh hc =>
      have hsecond := (second_iff (by decide) (by decide)).mpr ⟨hb, hlow, hhigh⟩
      exact .inr ⟨_, lead_three ha position,
        .more (show 2 ≠ 1 by decide) hsecond (.last rfl hc)⟩
    | four ha hb hlow hhigh hc hd =>
      have hsecond := (second_iff (by decide) (by decide)).mpr ⟨hb, hlow, hhigh⟩
      exact .inr ⟨_, lead_four ha position, .more (show 3 ≠ 1 by decide) hsecond
        (.more (show 2 ≠ 1 by decide) hc (.last rfl hd))⟩
  · rintro (⟨ha, rfl, rfl⟩ | ⟨p, hlead, h⟩)
    · exact .one ha
    -- What is pending tells in which range the first octet lies.
    rcases octet_cases octet with ha | ha | ha | ha | ha
    · rw [lead_of_lt ha] at hlead
      cases hlead
    · rw [lead_two ha] at hlead
      obtain rfl := Lead.pending.inj hlead
      cases h with
      | last _ hb => exact .two ha hb
      | more hmissing => exact absurd rfl hmissing
    · rw [lead_three ha] at hlead
      obtain rfl := Lead.pending.inj hlead
      cases h with
      | last hmissing => cases hmissing
      | more _ hb htail =>
      cases htail with
      | more hmissing => exact absurd rfl hmissing
      | last _ hc =>
        obtain ⟨hb, hlow, hhigh⟩ := (second_iff (by decide) (by decide)).mp hb
        exact .three ha hb hlow hhigh hc
    · rw [lead_four ha] at hlead
      obtain rfl := Lead.pending.inj hlead
      cases h with
      | last hmissing => cases hmissing
      | more _ hb htail =>
      cases htail with
      | last hmissing => cases hmissing
      | more _ hc htail =>
      cases htail with
      | more hmissing => exact absurd rfl hmissing
      | last _ hd =>
        obtain ⟨hb, hlow, hhigh⟩ := (second_iff (by decide) (by decide)).mp hb
        exact .four ha hb hlow hhigh hc hd
    · rw [lead_invalid ha] at hlead
      cases hlead

theorem decodeFrom_of_lt (h : octet.toNat < 0x80) (position : Nat) (behind : List UInt8) :
    decodeFrom position none (octet :: behind) =
      (decodeFrom (position + 1) none behind).map (Char.ofNat octet.toNat :: ·) := by
  simp only [decodeFrom, lead_of_lt h]

theorem decodeFrom_of_pending (hlead : lead position octet = .pending p) (behind : List UInt8) :
    decodeFrom position none (octet :: behind) = decodeFrom (position + 1) (some p) behind := by
  simp only [decodeFrom, hlead]

theorem Row.decodeFrom_append (h : Row front n) (position : Nat) (behind : List UInt8) :
    decodeFrom position none (front ++ behind) =
      (decodeFrom (position + front.length) none behind).map (Char.ofNat n :: ·) := by
  cases front with
  | nil => cases h
  | cons octet tail =>
  rcases (row_cons_iff position).mp h with ⟨hlt, rfl, rfl⟩ | ⟨p, hlead, htail⟩
  · exact decodeFrom_of_lt hlt position behind
  · rw [List.cons_append, decodeFrom_of_pending hlead, htail.decodeFrom_append, List.length_cons,
      Nat.add_assoc, Nat.add_comm 1]

/-- Octets are read only if a row comes next. -/
theorem exists_row_of_decodeFrom (h : decodeFrom position none (octet :: octets) = .ok text) :
    ∃ front behind n rest, octet :: octets = front ++ behind ∧ Row front n ∧
      text = Char.ofNat n :: rest ∧
      decodeFrom (position + front.length) none behind = .ok rest := by
  cases hlead : lead position octet with
  | char c =>
    have hlt : octet.toNat < 0x80 := by
      rcases octet_cases octet with ha | ha | ha | ha | ha
      · exact ha
      · exact nomatch (lead_two ha position).symm.trans hlead
      · exact nomatch (lead_three ha position).symm.trans hlead
      · exact nomatch (lead_four ha position).symm.trans hlead
      · exact nomatch (lead_invalid ha position).symm.trans hlead
    rw [decodeFrom_of_lt hlt] at h
    obtain ⟨rest, hrest, htext⟩ := exists_of_map_cons h
    exact ⟨[octet], octets, _, rest, rfl, .one hlt, htext, hrest⟩
  | pending p =>
    rw [decodeFrom_of_pending hlead] at h
    obtain ⟨tail, behind, n, rest, rfl, htail, htext, hrest⟩ := exists_completes_of_decodeFrom h
    have hrow := (row_cons_iff position).mpr (.inr ⟨p, hlead, htail⟩)
    refine ⟨octet :: tail, behind, n, rest, rfl, hrow, htext, ?_⟩
    rwa [List.length_cons, Nat.add_comm tail.length, ← Nat.add_assoc]
  | invalid =>
    simp only [decodeFrom, hlead] at h
    cases h

/-! ## Reading a text -/

theorem decodeFrom_eq_ok_iff (position : Nat) (octets : List UInt8) (text : Text) :
    decodeFrom position none octets = .ok text ↔ octets = encode text := by
  induction text generalizing position octets with
  | nil =>
    constructor
    · intro h
      cases octets with
      | nil => rfl
      | cons octet octets =>
        obtain ⟨_, _, _, _, -, -, htext, -⟩ := exists_row_of_decodeFrom h
        cases htext
    · rintro rfl
      rfl
  | cons c text ih =>
    constructor
    · intro h
      cases octets with
      | nil => cases h
      | cons octet octets =>
        obtain ⟨front, behind, n, rest, hoctets, hrow, htext, hrest⟩ := exists_row_of_decodeFrom h
        obtain ⟨rfl, rfl⟩ := List.cons.inj htext
        rw [hoctets, hrow.eq_utf8EncodeChar, (ih _ behind).mp hrest]
        rfl
    · rintro rfl
      rw [show encode (c :: text) = String.utf8EncodeChar c ++ encode text from rfl,
        (Row.of_char c).decodeFrom_append, (ih _ (encode text)).mpr rfl, Char.ofNat_toNat]
      rfl

/-- Octets are read as a text exactly if they are its octets. -/
theorem decode_eq_ok_iff (octets : List UInt8) (text : Text) :
    decode octets = .ok text ↔ octets = encode text :=
  decodeFrom_eq_ok_iff 0 octets text

end DiagnosticMarkers.Utf8
