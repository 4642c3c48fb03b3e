import Mathlib.Data.List.Basic
import SentenceChart.Json
import SentenceChart.Proofs.Text.Digits

/-!
# Reading escaped texts

A text between double quotes is read in two steps: first the UTF-16 code units
that its characters and escapes stand for, and then the characters that these
units make up, alone or in pairs.  So every text is read back from its written
form (`readText?_written`), in which all characters are printable ASCII.
-/

namespace SentenceChart.Json

abbrev quoteMark : Char := Char.ofNat 0x22

/-- The code unit that a letter after a backslash stands for. -/
def shortEscape? : Char → Option Nat
  | '\x22' => some 0x22
  | '\\' => some 0x5C
  | 'n' => some 0xA
  | 'r' => some 0xD
  | 't' => some 0x9
  | 'f' => some 0xC
  | 'b' => some 0x8
  | _ => none

/-- The code units before the closing quote, and what follows it. -/
def readUnits? : List Char → Option (List Nat × List Char)
  | [] => none
  | '\x22' :: rest => some ([], rest)
  | '\\' :: 'u' :: a :: b :: c :: d :: rest =>
      (readUnits? rest).map fun (units, after) =>
        (Text.hexValue [a, b, c, d] :: units, after)
  | '\\' :: letter :: rest =>
      match shortEscape? letter, readUnits? rest with
      | some unit, some (units, after) => some (unit :: units, after)
      | _, _ => none
  | c :: rest =>
      (readUnits? rest).map fun (units, after) => (c.toNat :: units, after)

/-- The characters that code units make up. -/
def chars? : List Nat → Option (List Char)
  | [] => some []
  | unit :: rest =>
      if 0xD800 ≤ unit ∧ unit < 0xDC00 then
        match rest with
        | low :: more =>
            if 0xDC00 ≤ low ∧ low < 0xE000 then
              (chars? more).map
                (Char.ofNat
                  (0x10000 + (unit - 0xD800) * 0x400 + (low - 0xDC00)) :: ·)
            else none
        | [] => none
      else if 0xDC00 ≤ unit ∧ unit < 0xE000 then none
      else (chars? rest).map (Char.ofNat unit :: ·)

theorem chars?_codeUnits (c : Char) (more : List Nat) :
    chars? (codeUnits c.toNat ++ more) = (chars? more).map (c :: ·) := by
  have valid : c.toNat < 0xD800 ∨ 0xDFFF < c.toNat ∧ c.toNat < 0x110000 :=
    c.valid
  rw [codeUnits]
  split
  · rename_i small
    have noHigh : ¬(0xD800 ≤ c.toNat ∧ c.toNat < 0xDC00) := by omega
    have noLow : ¬(0xDC00 ≤ c.toNat ∧ c.toNat < 0xE000) := by omega
    rw [List.singleton_append, chars?.eq_def]
    simp only [if_neg noHigh, if_neg noLow, Char.ofNat_toNat]
  · rename_i large
    have high : 0xD800 ≤ 0xD800 + (c.toNat - 0x10000) / 0x400 ∧
        0xD800 + (c.toNat - 0x10000) / 0x400 < 0xDC00 := by omega
    have low : 0xDC00 ≤ 0xDC00 + (c.toNat - 0x10000) % 0x400 ∧
        0xDC00 + (c.toNat - 0x10000) % 0x400 < 0xE000 := by omega
    have code : 0x10000 +
        (0xD800 + (c.toNat - 0x10000) / 0x400 - 0xD800) * 0x400 +
          (0xDC00 + (c.toNat - 0x10000) % 0x400 - 0xDC00) = c.toNat := by
      omega
    rw [List.cons_append, List.singleton_append, chars?.eq_def]
    simp only [if_pos high, if_pos low, code, Char.ofNat_toNat]

theorem readUnits?_escapeUnit {unit : Nat} (small : unit < 0x10000)
    (rest : List Char) :
    readUnits? (escapeUnit unit ++ rest) =
      (readUnits? rest).map fun (units, after) => (unit :: units, after) := by
  have value : Text.hexValue (Text.hexDigits 4 unit) = unit % 0x10000 :=
    Text.hexValue_hexDigits 4 unit
  have length := Text.length_hexDigits 4 unit
  rw [escapeUnit]
  match digits : Text.hexDigits 4 unit, length with
  | [a, b, c, d], _ =>
    rw [digits, Nat.mod_eq_of_lt small] at value
    simp [readUnits?, value]

theorem readUnits?_short {letter : Char} {unit : Nat}
    (short : shortEscape? letter = some unit) (rest : List Char) :
    readUnits? ('\\' :: letter :: rest) =
      (readUnits? rest).map fun (units, after) => (unit :: units, after) := by
  have notU : letter ≠ 'u' := by
    rintro rfl
    cases short
  cases read : readUnits? rest <;> simp [readUnits?, notU, short, read]

theorem readUnits?_plain {c : Char} (notQuote : c ≠ quoteMark)
    (notBackslash : c ≠ '\\') (rest : List Char) :
    readUnits? (c :: rest) =
      (readUnits? rest).map fun (units, after) =>
        (c.toNat :: units, after) := by
  rw [readUnits?]
  · exact notQuote
  · intro a b c d rest backslash
    exact (notBackslash backslash).elim
  · intro letter rest backslash
    exact (notBackslash backslash).elim

/-- A character is escaped by a backslash and a letter, or not at all, or by its
code units. -/
theorem escapeChar_cases (c : Char) :
    (∃ letter unit, escapeChar c = ['\\', letter] ∧
        shortEscape? letter = some unit ∧ codeUnits c.toNat = [unit]) ∨
      (escapeChar c = [c] ∧ c ≠ quoteMark ∧ c ≠ '\\' ∧
        0x20 ≤ c.toNat ∧ c.toNat < 0x7F) ∨
      escapeChar c = (codeUnits c.toNat).flatMap escapeUnit := by
  rw [escapeChar]
  -- Seven characters have an escape of their own.
  iterate 7
    split
    · rename_i same
      subst same
      exact .inl ⟨_, _, rfl, rfl, rfl⟩
  split
  · rename_i notQuote notBackslash _ _ _ _ _ printable
    exact .inr (.inl ⟨rfl, notQuote, notBackslash, printable⟩)
  · exact .inr (.inr rfl)

theorem codeUnits_lt {c : Char} :
    ∀ unit ∈ codeUnits c.toNat, unit < 0x10000 := by
  have valid : c.toNat < 0xD800 ∨ 0xDFFF < c.toNat ∧ c.toNat < 0x110000 :=
    c.valid
  intro unit member
  rw [codeUnits] at member
  split at member
  · cases List.mem_singleton.mp member
    assumption
  · rcases List.mem_pair.mp member with isHigh | isLow
    · omega
    · omega

theorem readUnits?_escapeUnits {units : List Nat}
    (small : ∀ unit ∈ units, unit < 0x10000) (rest : List Char) :
    readUnits? (units.flatMap escapeUnit ++ rest) =
      (readUnits? rest).map fun (more, after) => (units ++ more, after) := by
  induction units with
  | nil => simp
  | cons unit units ih =>
      obtain ⟨unitSmall, unitsSmall⟩ := List.forall_mem_cons.mp small
      rw [List.flatMap_cons, List.append_assoc,
        readUnits?_escapeUnit unitSmall, ih unitsSmall, Option.map_map]
      rfl

theorem readUnits?_escapeChar (c : Char) (rest : List Char) :
    readUnits? (escapeChar c ++ rest) =
      (readUnits? rest).map fun (units, after) =>
        (codeUnits c.toNat ++ units, after) := by
  rcases escapeChar_cases c with ⟨letter, unit, escaped, short, units⟩ |
    ⟨escaped, notQuote, notBackslash, _, small⟩ | escaped
  · rw [escaped, units]
    exact readUnits?_short short rest
  · have units : codeUnits c.toNat = [c.toNat] := by
      rw [codeUnits, if_pos (by omega)]
    rw [escaped, units]
    exact readUnits?_plain notQuote notBackslash rest
  · rw [escaped]
    exact readUnits?_escapeUnits codeUnits_lt rest

theorem readUnits?_escapeChars (cs : List Char) (rest : List Char) :
    readUnits? (cs.flatMap escapeChar ++ quoteMark :: rest) =
      some (cs.flatMap fun c => codeUnits c.toNat, rest) := by
  induction cs with
  | nil => rfl
  | cons c cs ih =>
      rw [List.flatMap_cons, List.append_assoc, readUnits?_escapeChar, ih]
      rfl

theorem chars?_flatMap_codeUnits (cs : List Char) :
    chars? (cs.flatMap fun c => codeUnits c.toNat) = some cs := by
  induction cs with
  | nil => rfl
  | cons c cs ih =>
      rw [List.flatMap_cons, chars?_codeUnits, ih]
      rfl

/-- The text before the closing quote, and what follows it. -/
def readText? (written : List Char) : Option (String × List Char) :=
  match readUnits? written with
  | none => none
  | some (units, rest) =>
      (chars? units).map fun cs => (String.ofList cs, rest)

theorem readText?_written (text : String) (rest : List Char) :
    readText? (text.toList.flatMap escapeChar ++ quoteMark :: rest) =
      some (text, rest) := by
  rw [readText?, readUnits?_escapeChars]
  simp only [chars?_flatMap_codeUnits, Option.map_some, String.ofList_toList]

/-- The character is printable ASCII, as all characters of a written value. -/
def IsPlain (c : Char) : Prop :=
  ' ' ≤ c ∧ c ≤ '~'

instance (c : Char) : Decidable (IsPlain c) :=
  inferInstanceAs (Decidable (_ ∧ _))

theorem isPlain_iff {c : Char} :
    IsPlain c ↔ 0x20 ≤ c.toNat ∧ c.toNat ≤ 0x7E :=
  Iff.rfl

theorem isPlain_of_shortEscape? {letter : Char} {unit : Nat}
    (short : shortEscape? letter = some unit) : IsPlain letter := by
  unfold shortEscape? at short
  split at short
  iterate 7
    · decide
  cases short

theorem isPlain_of_mem_hexDigits {width number : Nat} {c : Char}
    (member : c ∈ Text.hexDigits width number) : IsPlain c := by
  have plain : ∀ digit < 16, IsPlain (Nat.digitChar digit) := by decide
  induction width generalizing number with
  | zero => cases member
  | succ width ih =>
      rw [Text.hexDigits, List.mem_append, List.mem_singleton] at member
      rcases member with inFront | rfl
      · exact ih inFront
      · exact plain _ (Nat.mod_lt _ (by decide))

theorem isPlain_of_mem_escapeChar {c written : Char}
    (member : written ∈ escapeChar c) : IsPlain written := by
  rcases escapeChar_cases c with ⟨letter, unit, escaped, short, _⟩ |
    ⟨escaped, _, _, large, small⟩ | escaped
  · rw [escaped, List.mem_pair] at member
    rcases member with rfl | rfl
    · decide
    · exact isPlain_of_shortEscape? short
  · rw [escaped, List.mem_singleton] at member
    subst written
    exact isPlain_iff.mpr ⟨large, Nat.le_of_lt_succ small⟩
  · rw [escaped, List.mem_flatMap] at member
    obtain ⟨unit, _, inUnit⟩ := member
    rw [escapeUnit, List.mem_cons, List.mem_cons] at inUnit
    rcases inUnit with rfl | rfl | inDigits
    · decide
    · decide
    · exact isPlain_of_mem_hexDigits inDigits

end SentenceChart.Json
