import SentenceChart.Proofs.Json.Escape

/-!
# Reading JSON values

A reader for the written form of values.  It gives the value at the front of a
text and what follows it, and it finds every value in its written form
(`readValue?_written`).  So a value is known from its text, which is a line of
printable ASCII characters.
-/

namespace SentenceChart.Json

/-- The flag at the front of a text, and what follows it. -/
def readFlag? : List Char → Option (Bool × List Char)
  | 't' :: 'r' :: 'u' :: 'e' :: rest => some (true, rest)
  | 'f' :: 'a' :: 'l' :: 's' :: 'e' :: rest => some (false, rest)
  | _ => none

/-- The number or flag at the front of a text, and what follows it. -/
def readAtom? (text : List Char) : Option (Json × List Char) :=
  match Text.readInteger? text, readFlag? text with
  | some (value, rest), _ => some (.number value, rest)
  | none, some (value, rest) => some (.flag value, rest)
  | none, none => none

/-- The key of a member with the colon after it, and what follows. -/
def readKey? : List Char → Option (String × List Char)
  | '\x22' :: written =>
      match readText? written with
      | some (key, ':' :: ' ' :: rest) => some (key, rest)
      | _ => none
  | _ => none

mutual

/-- The value at the front of a text, and what follows it. -/
def readValue? (text : List Char) : Option (Json × List Char) :=
  match readAtom? text, text with
  | some found, _ => some found
  | none, '\x22' :: written =>
      (readText? written).map fun (value, rest) => (.text value, rest)
  | none, '[' :: ']' :: rest => some (.list [], rest)
  | none, '[' :: written =>
      (readItems? written).map fun (items, rest) => (.list items, rest)
  | none, '\x7b' :: '\x7d' :: rest => some (.record [], rest)
  | none, '\x7b' :: written =>
      (readMembers? written).map fun (members, rest) => (.record members, rest)
  | none, _ => none
termination_by (text.length, 0)

/-- The items before a closing bracket, and what follows it.  What follows an
item must be shorter than the text, so that the reading comes to an end. -/
def readItems? (text : List Char) : Option (List Json × List Char) :=
  match readValue? text with
  | some (item, ']' :: rest) => some ([item], rest)
  | some (item, ',' :: ' ' :: more) =>
      if more.length < text.length then
        (readItems? more).map fun (items, rest) => (item :: items, rest)
      else
        none
  | _ => none
termination_by (text.length, 1)

/-- The members before a closing brace, and what follows it. -/
def readMembers? (text : List Char) :
    Option (List (String × Json) × List Char) :=
  match readKey? text with
  | none => none
  | some (key, written) =>
      if written.length < text.length then
        match readValue? written with
        | some (value, '\x7d' :: rest) => some ([(key, value)], rest)
        | some (value, ',' :: ' ' :: more) =>
            if more.length < text.length then
              (readMembers? more).map fun (members, rest) =>
                ((key, value) :: members, rest)
            else
              none
        | _ => none
      else
        none
termination_by (text.length, 1)

end

theorem readAtom?_number (value : Int) {rest : List Char}
    (ends : Text.EndsNumeral rest) :
    readAtom? (Text.decimal value ++ rest) = some (.number value, rest) := by
  rw [readAtom?, Text.readInteger?_decimal value ends]

theorem readAtom?_flag (value : Bool) (rest : List Char) :
    readAtom? ((Json.flag value).written ++ rest) =
      some (.flag value, rest) := by
  cases value with
  | true => simp [written, readAtom?, Text.readInteger?_eq_none, readFlag?]
  | false => simp [written, readAtom?, Text.readInteger?_eq_none, readFlag?]

theorem readAtom?_eq_none {c : Char} {rest : List Char} (noMinus : c ≠ '-')
    (noDigit : c.isDigit = false) (noFlag : c ≠ 't' ∧ c ≠ 'f') :
    readAtom? (c :: rest) = none := by
  rw [readAtom?, Text.readInteger?_eq_none noMinus noDigit, readFlag?]
  · intro rest flag
    cases flag
    exact noFlag.1 rfl
  · intro rest flag
    cases flag
    exact noFlag.2 rfl

theorem readKey?_written (key : String) (rest : List Char) :
    readKey? (writtenText key ++ ": ".toList ++ rest) = some (key, rest) := by
  have read := readText?_written key (':' :: ' ' :: rest)
  simp [writtenText, readKey?, read]

/-- No value begins with a closing bracket. -/
theorem readValue?_close (rest : List Char) :
    readValue? (']' :: rest) = none := by
  simp [readValue?, readAtom?_eq_none]

theorem readValue?_text (value : String) (rest : List Char) :
    readValue? (writtenText value ++ rest) = some (.text value, rest) := by
  have read := readText?_written value rest
  simp [writtenText, readValue?, read]

theorem readValue?_list {written : List Char} {items : List Json}
    {rest : List Char} (read : readItems? written = some (items, rest)) :
    readValue? ('[' :: written) = some (.list items, rest) := by
  have notEmpty : ∀ more, written ≠ ']' :: more := by
    rintro more rfl
    simp [readItems?, readValue?_close] at read
  simp [readValue?, readAtom?_eq_none, read]

theorem readValue?_record {written : List Char}
    {members : List (String × Json)} {rest : List Char}
    (read : readMembers? written = some (members, rest)) :
    readValue? ('\x7b' :: written) = some (.record members, rest) := by
  have notEmpty : ∀ more, written ≠ '\x7d' :: more := by
    rintro more rfl
    simp [readMembers?, readKey?] at read
  simp [readValue?, readAtom?_eq_none, read]

section Lists

variable {text more rest : List Char}

theorem readItems?_last {item : Json}
    (read : readValue? text = some (item, [']'] ++ rest)) :
    readItems? text = some ([item], rest) := by
  rw [readItems?, read]
  rfl

theorem readItems?_more {item : Json} {items : List Json}
    (shorter : more.length < text.length)
    (read : readValue? text = some (item, ", ".toList ++ more))
    (readMore : readItems? more = some (items, rest)) :
    readItems? text = some (item :: items, rest) := by
  rw [readItems?, read]
  simp [shorter, readMore]

variable {written : List Char} {key : String} {value : Json}
  (writtenShorter : written.length < text.length)
  (readKey : readKey? text = some (key, written))

include writtenShorter readKey

theorem readMembers?_last
    (read : readValue? written = some (value, ['\x7d'] ++ rest)) :
    readMembers? text = some ([(key, value)], rest) := by
  rw [readMembers?, readKey]
  simp [writtenShorter, read]

theorem readMembers?_more {members : List (String × Json)}
    (shorter : more.length < text.length)
    (read : readValue? written = some (value, ", ".toList ++ more))
    (readMore : readMembers? more = some (members, rest)) :
    readMembers? text = some ((key, value) :: members, rest) := by
  rw [readMembers?, readKey]
  simp [writtenShorter, shorter, read, readMore]

end Lists

mutual

/-- The written form of a value is read as the value, if what follows does not
go on with a numeral. -/
theorem readValue?_written (value : Json) {rest : List Char}
    (ends : Text.EndsNumeral rest) :
    readValue? (value.written ++ rest) = some (value, rest) := by
  cases value with
  | flag value =>
      rw [readValue?]
      exact readAtom?_flag value rest
  | number value =>
      rw [readValue?]
      exact readAtom?_number value ends
  | text value => exact readValue?_text value rest
  | list items =>
      by_cases empty : items = []
      · simp [empty, written, writtenItems, readValue?]
      · have read := readItems?_written items empty rest
        rw [written, List.cons_append, List.cons_append, List.append_assoc]
        exact readValue?_list read
  | record members =>
      by_cases empty : members = []
      · simp [empty, written, writtenMembers, readValue?]
      · have read := readMembers?_written members empty rest
        rw [written, List.cons_append, List.cons_append, List.append_assoc]
        exact readValue?_record read

theorem readItems?_written (items : List Json) (notEmpty : items ≠ [])
    (rest : List Char) :
    readItems? (writtenItems items ++ ([']'] ++ rest)) =
      some (items, rest) := by
  match items with
  | [] => exact (notEmpty rfl).elim
  | [item] =>
      apply readItems?_last
      rw [writtenItems]
      exact readValue?_written item (Text.endsNumeral_cons (by decide))
  | item :: next :: more =>
      rw [writtenItems, List.append_assoc, List.append_assoc]
      refine readItems?_more ?_
        (readValue?_written item (Text.endsNumeral_cons (by decide)))
        (readItems?_written (next :: more) (List.cons_ne_nil _ _) rest)
      simp
      omega

theorem readMembers?_written (members : List (String × Json))
    (notEmpty : members ≠ []) (rest : List Char) :
    readMembers? (writtenMembers members ++ (['\x7d'] ++ rest)) =
      some (members, rest) := by
  match members with
  | [] => exact (notEmpty rfl).elim
  | [(key, value)] =>
      rw [writtenMembers, List.append_assoc]
      refine readMembers?_last ?_ (readKey?_written key _)
        (readValue?_written value (Text.endsNumeral_cons (by decide)))
      simp [writtenText]
      omega
  | (key, value) :: next :: more =>
      rw [writtenMembers, List.append_assoc, List.append_assoc,
        List.append_assoc]
      refine readMembers?_more ?_ (readKey?_written key _) ?_
        (readValue?_written value (Text.endsNumeral_cons (by decide)))
        (readMembers?_written (next :: more) (List.cons_ne_nil _ _) rest)
      · simp [writtenText]
        omega
      · simp [writtenText]
        omega

end

/-- The value that a text is written for. -/
def read? (text : String) : Option Json :=
  match readValue? text.toList with
  | some (value, []) => some value
  | _ => none

theorem read?_toText (value : Json) : read? value.toText = some value := by
  have read := readValue?_written value Text.endsNumeral_nil
  rw [List.append_nil] at read
  rw [read?, toText, String.toList_ofList, read]

theorem isPlain_of_mem_writtenText {text : String} {c : Char}
    (member : c ∈ writtenText text) : IsPlain c := by
  rw [writtenText, List.mem_append, List.mem_cons, List.mem_flatMap,
    List.mem_singleton] at member
  rcases member with (rfl | ⟨original, _, escaped⟩) | rfl
  · decide
  · exact isPlain_of_mem_escapeChar escaped
  · decide

theorem isPlain_of_all {text : List Char}
    (all : text.all (fun c => decide (IsPlain c)) = true) :
    ∀ c ∈ text, IsPlain c := by
  simpa only [List.all_eq_true, decide_eq_true_eq] using all

theorem isPlain_of_mem_decimal {value : Int} {c : Char}
    (member : c ∈ Text.decimal value) : IsPlain c := by
  have digit (isDigit : c.isDigit = true) : IsPlain c := by
    obtain ⟨low, high⟩ := Char.isDigit_iff_toNat.mp isDigit
    exact isPlain_iff.mpr
      ⟨Nat.le_trans (by decide) low, Nat.le_trans high (by decide)⟩
  cases value with
  | ofNat number => exact digit (Text.isDigit_of_mem_decimalDigits member)
  | negSucc number =>
      rcases List.mem_cons.mp member with rfl | inDigits
      · decide
      · exact digit (Text.isDigit_of_mem_decimalDigits inDigits)

mutual

/-- The written form of a value is one line of printable ASCII characters. -/
theorem isPlain_of_mem_written (value : Json) :
    ∀ c ∈ value.written, IsPlain c := by
  cases value with
  | flag value => cases value <;> exact isPlain_of_all rfl
  | number value => exact fun _ => isPlain_of_mem_decimal
  | text value => exact fun _ => isPlain_of_mem_writtenText
  | list items =>
      rw [written, List.forall_mem_append, List.forall_mem_cons]
      exact ⟨⟨by decide, isPlain_of_mem_writtenItems items⟩, isPlain_of_all rfl⟩
  | record members =>
      rw [written, List.forall_mem_append, List.forall_mem_cons]
      exact ⟨⟨by decide, isPlain_of_mem_writtenMembers members⟩,
        isPlain_of_all rfl⟩

theorem isPlain_of_mem_writtenItems (items : List Json) :
    ∀ c ∈ writtenItems items, IsPlain c := by
  match items with
  | [] => exact List.forall_mem_nil _
  | [item] => exact isPlain_of_mem_written item
  | item :: next :: more =>
      simp only [writtenItems, List.forall_mem_append]
      exact ⟨⟨isPlain_of_mem_written item, isPlain_of_all rfl⟩,
        isPlain_of_mem_writtenItems (next :: more)⟩

theorem isPlain_of_mem_writtenMembers (members : List (String × Json)) :
    ∀ c ∈ writtenMembers members, IsPlain c := by
  match members with
  | [] => exact List.forall_mem_nil _
  | [(key, value)] =>
      simp only [writtenMembers, List.forall_mem_append]
      exact ⟨⟨fun _ => isPlain_of_mem_writtenText, isPlain_of_all rfl⟩,
        isPlain_of_mem_written value⟩
  | (key, value) :: next :: more =>
      simp only [writtenMembers, List.forall_mem_append]
      exact ⟨⟨⟨⟨fun _ => isPlain_of_mem_writtenText, isPlain_of_all rfl⟩,
        isPlain_of_mem_written value⟩, isPlain_of_all rfl⟩,
        isPlain_of_mem_writtenMembers (next :: more)⟩

end

end SentenceChart.Json
