import SentenceChart.Proofs.CommandLine.Report
import SentenceChart.Proofs.Json.Reading

/-!
# Records of sentences

The record of a sentence and its verdict can be read back: the sentence, and the
tree or the refusal with all of its parts.  So a report that is written as
records has one line for each sentence, from which the sentence and the verdict
are known.
-/

namespace SentenceChart

mutual

/-- The tree that a value is the record of. -/
def Tree.ofJson? : Json → Option Tree
  | .record [("label", .text label), ("children", .list items)] =>
      (Tree.ofJsonAll? items).map fun children => .node label children none
  | .record [("label", .text label), ("children", .list items),
        ("word", .text word)] =>
      (Tree.ofJsonAll? items).map fun children =>
        .node label children (some word)
  | _ => none

def Tree.ofJsonAll? : List Json → Option (List Tree)
  | [] => some []
  | item :: more =>
      match Tree.ofJson? item, Tree.ofJsonAll? more with
      | some tree, some trees => some (tree :: trees)
      | _, _ => none

end

mutual

theorem Tree.ofJson?_toJson (tree : Tree) :
    ofJson? tree.toJson = some tree := by
  obtain ⟨label, children, word⟩ := tree
  have read := ofJsonAll?_toJsonAll children
  cases word with
  | none => simp [toJson, ofJson?, read]
  | some word => simp [toJson, ofJson?, read]

theorem Tree.ofJsonAll?_toJsonAll (trees : List Tree) :
    ofJsonAll? (toJsonAll trees) = some trees := by
  match trees with
  | [] => rfl
  | tree :: more =>
      rw [toJsonAll, ofJsonAll?, ofJson?_toJson tree,
        ofJsonAll?_toJsonAll more]

end

/-- The kind of refusal with a name. -/
def RefusalKind.named? (name : String) : Option RefusalKind :=
  [emptyInput, unknownWord, structural, inputTooLong].find? (·.name == name)

theorem RefusalKind.named?_name (kind : RefusalKind) :
    named? kind.name = some kind := by
  cases kind <;> rfl

/-- The verdict that members are those of. -/
def Verdict.ofMembers? : List (String × Json) → Option Verdict
  | [] => some .unwritable
  | [("is_valid", .flag true), ("parse_tree", tree)] =>
      (Tree.ofJson? tree).map .valid
  | ("is_valid", .flag false) :: ("error", .text message) ::
        ("error_position", .number position) :: ("kind", .text name) :: more =>
      match RefusalKind.named? name, more with
      | some kind, [] => some (.invalid ⟨message, position, none, kind⟩)
      | some kind, [("error_word", .text word)] =>
          some (.invalid ⟨message, position, some word, kind⟩)
      | _, _ => none
  | _ => none

theorem Verdict.ofMembers?_members (verdict : Verdict) :
    ofMembers? verdict.members = some verdict := by
  cases verdict with
  | unwritable => rfl
  | valid tree => simp [members, ofMembers?, Tree.ofJson?_toJson]
  | invalid refusal =>
      obtain ⟨message, position, word, kind⟩ := refusal
      cases word with
      | none =>
          simp [members, Refusal.members, ofMembers?, RefusalKind.named?_name]
      | some word =>
          simp [members, Refusal.members, ofMembers?, RefusalKind.named?_name]

namespace CommandLine

/-- The sentence and the verdict that a line is the record of. -/
def readRecord? (line : String) : Option (String × Verdict) :=
  match Json.read? line with
  | some (.record (("sentence", .text sentence) :: members)) =>
      (Verdict.ofMembers? members).map fun verdict => (sentence, verdict)
  | _ => none

theorem readRecord?_record (sentence : String) (verdict : Verdict) :
    readRecord? (record sentence verdict).toText =
      some (sentence, verdict) := by
  rw [readRecord?, Json.read?_toText, record]
  simp [Verdict.ofMembers?_members]

theorem record_toText_inj {sentence sentence' : String}
    {verdict verdict' : Verdict}
    (same : (record sentence verdict).toText =
      (record sentence' verdict').toText) :
    sentence = sentence' ∧ verdict = verdict' := by
  have read := readRecord?_record sentence verdict
  rw [same, readRecord?_record] at read
  cases read
  exact ⟨rfl, rfl⟩

namespace Request

variable {request : Request}

/-- The sentences that a run comes to: all of them, but none if the data file
cannot be read, and those before the first one that cannot be checked. -/
def reached (request : Request) (text : Except FileFault String) :
    List String :=
  match request.fileSentences text with
  | .error _ => []
  | .ok fromFile => (request.allSentences fromFile).takeWhile request.canCheck

/-- The sentences that a run on a tree of files comes to. -/
def reachedOn (request : Request) (files : FileTree) (clock : Clock) :
    List String :=
  match request.openLog files clock with
  | .error _ => []
  | .ok (opened, _) => request.reached (opened.text (request.dataFile.getD ""))

theorem stdout_course (text : Except FileFault String) :
    (request.course text).stdout =
      request.preamble ++
        String.join ((request.reached text).map fun sentence =>
          block request.json sentence
            (request.checker.check (some sentence))) := by
  rw [course, reached]
  cases request.fileSentences text with
  | error fault => simp
  | ok fromFile =>
      simp only
      split
      · simp only [List.map_map]
        rfl
      · simp only [List.map_map]
        rfl

theorem stdout_outcomeOn (noGrammar : request.showGrammar = false)
    (files : FileTree) (clock : Clock) :
    (request.outcomeOn files clock).1.stdout =
      String.join ((request.reachedOn files clock).map fun sentence =>
        block request.json sentence
          (request.checker.check (some sentence))) := by
  rw [reachedOn]
  cases opening : request.openLog files clock with
  | error fault =>
      cases noLog : request.logDir with
      | none =>
          rw [openLog_of_noLog request noLog] at opening
          cases opening
      | some directory => simp [outcomeOn, opening, outcome, noLog]
  | ok opened =>
      rw [(outcomeOn_of_openLog opening).1, stdout_course, preamble, noGrammar]
      simp

theorem reachedOn_eq {limit : Int} {files opened : FileTree} {clock : Clock}
    {log : String} {fromFile : List String}
    (limited : request.limit = .most limit)
    (short : limit.natAbs < Text.numeralBound)
    (openLog : request.openLog files clock = .ok (opened, log))
    (adds : request.AddsFromFile opened fromFile) :
    request.reachedOn files clock = request.allSentences fromFile := by
  rw [reachedOn, openLog]
  simp only [reached, adds.fileSentences_eq]
  apply List.takeWhile_eq_self_iff.mpr
  intro sentence _
  exact canCheck_of_short limited short sentence

end Request

/-- A report of records has one line for each sentence that the run comes to, in
their order.  A line is printable ASCII, and the sentence and the whole verdict
can be read from it. -/
theorem outcomeOn_record_lines {arguments : List String} {request : Request}
    (accepted : read arguments = .request request)
    (json : request.json = true) (noGrammar : request.showGrammar = false)
    (files : FileTree) (clock : Clock) :
    let sentences := request.reachedOn files clock
    let verdict (sentence : String) := request.checker.check (some sentence)
    (∃ lines : List String,
      (outcomeOn arguments files clock).1.stdout =
          String.join (lines.map (· ++ "\n")) ∧
        (∀ line ∈ lines, ∀ c ∈ line.toList, ' ' ≤ c ∧ c ≤ '~') ∧
        lines.map readRecord? =
          sentences.map fun sentence => some (sentence, verdict sentence)) ∧
      (∀ limit opened log fromFile, request.limit = .most limit →
        request.openLog files clock = .ok (opened, log) →
        request.AddsFromFile opened fromFile →
        sentences = request.sentences ++ fromFile ++
          if request.examples then exampleSentences else []) ∧
      ∀ sentence sentence' verdict verdict',
        (record sentence verdict).toText =
            (record sentence' verdict').toText →
          sentence = sentence' ∧ verdict = verdict' := by
  intro sentences verdict
  refine ⟨?_, ?_, ?_⟩
  · refine ⟨sentences.map fun sentence =>
      (record sentence (verdict sentence)).toText, ?_, ?_, ?_⟩
    · have stdout := Request.stdout_outcomeOn noGrammar files clock
      simp only [outcomeOn, accepted, stdout, json, block, if_true,
        List.map_map]
      rfl
    · intro line member c inLine
      obtain ⟨sentence, _, rfl⟩ := List.mem_map.mp member
      rw [Json.toText, String.toList_ofList] at inLine
      exact Json.isPlain_of_mem_written _ c inLine
    · simp only [List.map_map, Function.comp_def, readRecord?_record]
  · intro limit opened log fromFile limited openLog adds
    exact Request.reachedOn_eq limited (limit_lt_of_read accepted limited)
      openLog adds
  · intro _ _ _ _ same
    exact record_toText_inj same

theorem readAfter_plain (request : Request) (texts : List String) :
    readAfter request .among [] (texts.map .plain) =
      .request { request with sentences := request.sentences ++ texts } := by
  induction texts generalizing request with
  | nil => simp [readAfter]
  | cons text more ih => simp [readAfter, ih, Request.addSentence]

/-- Every list of sentences can be given, whatever it holds. -/
theorem read_json_sentences (sentences : List String) :
    read ("--json" :: "--" :: sentences) =
      .request { Request.initial with sentences, json := true } := by
  have kinds : classifyAll ("--json" :: "--" :: sentences) =
      .ok (.option (.switch .json) none :: .separator ::
        sentences.map .plain) :=
    rfl
  rw [read, kinds]
  exact readAfter_plain { Request.initial with json := true } sentences

/-- Sentences with quotes, a line feed, a backslash and characters that take one
or two code units. -/
def oddSentences : List String :=
  ["the \"cat\"\ntalks", "a \\ dog", "", "É 😀"]

theorem outcomeOn_record_lines_odd :
    ∃ lines : List String,
      (outcomeOn ("--json" :: "--" :: oddSentences) dataFiles
          (.ofMilliseconds 0)).1.stdout =
          String.join (lines.map (· ++ "\n")) ∧
        (∀ line ∈ lines, ∀ c ∈ line.toList, ' ' ≤ c ∧ c ≤ '~') ∧
        lines.map readRecord? = oddSentences.map fun sentence =>
          some (sentence, Checker.standard.check (some sentence)) := by
  have accepted := read_json_sentences oddSentences
  obtain ⟨⟨lines, stdout, plain, records⟩, reached, _⟩ :=
    outcomeOn_record_lines accepted rfl rfl dataFiles (.ofMilliseconds 0)
  have openLog := Request.openLog_of_noLog
    { Request.initial with sentences := oddSentences, json := true } rfl
    dataFiles (.ofMilliseconds 0)
  refine ⟨lines, stdout, plain, ?_⟩
  rw [records, reached defaultLimit dataFiles "" [] rfl openLog (.noFile rfl)]
  rfl

end CommandLine

end SentenceChart
