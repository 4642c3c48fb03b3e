import Mathlib.Data.List.TakeWhile
import SentenceChart.CommandLine.Run
import SentenceChart.Proofs.CommandLine.Limit
import SentenceChart.Proofs.Decision

/-!
# What a run reports

A run with a limit that can be used checks all of its sentences: those among
the arguments, those of the data file, and the examples.  The report is the
grammar, if it is asked for, and one block for each sentence, whatever the
verdicts are; a verdict matters for its own block and for the exit status only.
If the data file cannot be read, the report ends before the first block.  A limit
among the arguments can always be written, so every sentence has a verdict.
-/

namespace SentenceChart

namespace Verdict

variable {verdict : Verdict}

theorem isValid_iff :
    verdict.isValid = true ↔ ∃ tree, verdict = .valid tree := by
  cases verdict <;> simp [isValid]

theorem isValid_eq_false_iff (writable : verdict.isWritable = true) :
    verdict.isValid = false ↔ ∃ refusal, verdict = .invalid refusal := by
  cases verdict with
  | valid tree => simp [isValid]
  | invalid refusal => simp [isValid]
  | unwritable => cases writable

end Verdict

namespace CommandLine

theorem exit_iff (allValid : Bool) :
    (Ending.exit (if allValid then 0 else 1) = .exit 0 ↔ allValid = true) ∧
      (Ending.exit (if allValid then 0 else 1) = .exit 1 ↔
        allValid = false) := by
  cases allValid with
  | true => simp
  | false => simp

/-- What a block holds: the record of the sentence on a line, or the sentence, its
verdict and a line of dashes. -/
inductive Shows (sentence : String) : Bool → Verdict → String → Prop where
  | record (verdict : Verdict) :
      Shows sentence true verdict ((record sentence verdict).toText ++ "\n")
  | valid (tree : Tree) :
      Shows sentence false (.valid tree)
        (sentence ++ ": valid\n" ++ tree.outline "  " ++
          "\n" ++ "---------------------\n")
  | invalid (message : String) (position : Int) (kind : RefusalKind) :
      Shows sentence false (.invalid ⟨message, position, none, kind⟩)
        (sentence ++ ": " ++ message ++ " (position " ++
          Text.showInt position ++ ")" ++
          "\n" ++ "---------------------\n")
  | invalidWord (message word : String) (position : Int)
      (kind : RefusalKind) :
      Shows sentence false (.invalid ⟨message, position, some word, kind⟩)
        (sentence ++ ": " ++ message ++ " (position " ++
          Text.showInt position ++ ")" ++ (" [word: " ++ word ++ "]") ++
          "\n" ++ "---------------------\n")

theorem Shows.ne_empty {sentence text : String} {json : Bool}
    {verdict : Verdict} (shows : Shows sentence json verdict text) :
    text ≠ "" := by
  cases shows <;> simp

theorem shows_block (json : Bool) (sentence : String) {verdict : Verdict}
    (writable : verdict.isWritable = true) :
    Shows sentence json verdict (block json sentence verdict) := by
  cases json with
  | true => exact .record verdict
  | false =>
      cases verdict with
      | valid tree => exact .valid tree
      | invalid refusal =>
          obtain ⟨message, position, word, kind⟩ := refusal
          cases word with
          | none =>
              rw [block, if_neg Bool.false_ne_true, plainText,
                String.append_empty]
              exact .invalid message position kind
          | some word => exact .invalidWord message word position kind
      | unwritable => cases writable

namespace Request

/-- The sentences that the data file adds to those of a request: its lines that
are not blank, and none without a data file. -/
inductive AddsFromFile (request : Request) (files : FileTree) :
    List String → Prop where
  | noFile :
      request.dataFile = none →
      AddsFromFile request files []
  | lines {path text : String} :
      request.dataFile = some path →
      files.text path = .ok text →
      AddsFromFile request files
        (((Text.lines text.toList).filter fun line =>
          !Text.isBlankText line).map String.ofList)

variable {request : Request}

theorem AddsFromFile.fileSentences_eq {files : FileTree}
    {fromFile : List String} (adds : request.AddsFromFile files fromFile) :
    request.fileSentences (files.text (request.dataFile.getD "")) =
      .ok fromFile := by
  cases adds with
  | noFile noFile => rw [fileSentences, noFile]
  | lines named found =>
      rw [fileSentences, named, Option.getD_some, found]
      rfl

theorem fileSentences_of_error {files : FileTree} {path : String}
    {fault : FileFault} (named : request.dataFile = some path)
    (unreadable : files.text path = .error fault) :
    request.fileSentences (files.text (request.dataFile.getD "")) =
      .error fault := by
  rw [fileSentences, named, Option.getD_some, unreadable]
  rfl

section Course

variable {text : Except FileFault String}

theorem canCheck_of_short {limit : Int}
    (limited : request.limit = .most limit)
    (short : limit.natAbs < Text.numeralBound) (sentence : String) :
    request.canCheck sentence = true := by
  simp [canCheck, limited, Text.numeral?_of_lt short]

theorem check_isWritable_of_short {limit : Int}
    (limited : request.limit = .most limit)
    (short : limit.natAbs < Text.numeralBound) (sentence : String) :
    (request.checker.check (some sentence)).isWritable = true := by
  apply Checker.check_isWritable
  intro most same
  rw [checker, limited] at same
  cases same
  exact short

theorem course_of_ok {limit : Int} {fromFile : List String}
    (limited : request.limit = .most limit)
    (short : limit.natAbs < Text.numeralBound)
    (read : request.fileSentences text = .ok fromFile) :
    request.course text =
      let sentences := request.allSentences fromFile
      let verdict (sentence : String) := request.checker.check (some sentence)
      { stdout := request.preamble ++ String.join (sentences.map fun sentence =>
          block request.json sentence (verdict sentence))
        records := (sentences.flatMap fun sentence =>
          (request.check sentence).records) ++ [closingRecord sentences]
        ending := .exit
          (if sentences.all fun sentence => (verdict sentence).isValid then 0
            else 1) } := by
  have canCheck : ∀ sentence ∈ request.allSentences fromFile,
      request.canCheck sentence = true := by
    intro sentence _
    exact canCheck_of_short limited short sentence
  -- So the run goes through to the last sentence, whatever the verdicts are.
  have all := List.all_eq_true.mpr canCheck
  have whole := List.takeWhile_eq_self_iff.mpr canCheck
  rw [course, read]
  simp only [all, whole, if_true, List.map_map, List.all_map,
    List.flatMap_map]
  rfl

theorem course_of_error {fault : FileFault}
    (unreadable : request.fileSentences text = .error fault) :
    request.course text = ⟨request.preamble, [], .fault fault⟩ := by
  rw [course, unreadable]

theorem report_course {limit : Int} {fromFile : List String}
    (limited : request.limit = .most limit)
    (short : limit.natAbs < Text.numeralBound)
    (read : request.fileSentences text = .ok fromFile) :
    let sentences := request.allSentences fromFile
    let verdict (sentence : String) := request.checker.check (some sentence)
    (request.course text).stdout =
        request.preamble ++ String.join (sentences.map fun sentence =>
          block request.json sentence (verdict sentence)) ∧
      ((request.course text).ending = .exit 0 ↔
        ∀ sentence ∈ sentences, ∃ tree, verdict sentence = .valid tree) ∧
      ((request.course text).ending = .exit 1 ↔
        ∃ sentence ∈ sentences, ∃ refusal,
          verdict sentence = .invalid refusal) := by
  obtain ⟨zero_iff, one_iff⟩ :=
    exit_iff ((request.allSentences fromFile).all fun sentence =>
      (request.checker.check (some sentence)).isValid)
  have refused_iff (sentence : String) :=
    Verdict.isValid_eq_false_iff
      (check_isWritable_of_short limited short sentence)
  rw [course_of_ok limited short read]
  refine ⟨rfl, zero_iff.trans ?_, one_iff.trans ?_⟩
  · simp only [List.all_eq_true, Verdict.isValid_iff]
  · simp only [List.all_eq_false, Bool.not_eq_true, refused_iff]

end Course

theorem openLog_of_noLog (request : Request) (noLog : request.logDir = none)
    (files : FileTree) (clock : Clock) :
    request.openLog files clock = .ok (files, "") := by
  rw [openLog, noLog]

/-- Once the log is open, the report and the end of a run are those of its
course. -/
theorem outcomeOn_of_openLog {files opened : FileTree} {clock : Clock}
    {log : String} (openLog : request.openLog files clock = .ok (opened, log)) :
    let course := request.course (opened.text (request.dataFile.getD ""))
    (request.outcomeOn files clock).1.stdout = course.stdout ∧
      (request.outcomeOn files clock).1.ending = course.ending := by
  rw [outcomeOn, openLog]
  cases noLog : request.logDir with
  | none => simp [outcome, noLog]
  | some directory => simp [outcome, noLog]

end Request

/-- The report of a run is the grammar, if it is asked for, and a block for each
sentence, in the order of the arguments, the data file and the examples.  The
exit status is 0 if all sentences are valid and 1 otherwise.  A data file that
cannot be read ends the run after the grammar.  Each block shows its sentence and
the verdict on it.  The log, if there is one, is opened before
(`Request.openLog_of_noLog`). -/
theorem outcomeOn_report {arguments : List String} {request : Request}
    {limit : Int} {files opened : FileTree} {clock : Clock} {log : String}
    (accepted : read arguments = .request request)
    (limited : request.limit = .most limit)
    (openLog : request.openLog files clock = .ok (opened, log)) :
    let outcome := (outcomeOn arguments files clock).1
    let grammarText := if request.showGrammar then Grammar.toy.toText else ""
    let verdict (sentence : String) :=
      (Checker.mk Grammar.toy (some limit)).check (some sentence)
    (∀ fromFile, request.AddsFromFile opened fromFile →
      let sentences := request.sentences ++ fromFile ++
        if request.examples then exampleSentences else []
      outcome.stdout = grammarText ++
          String.join (sentences.map fun sentence =>
            block request.json sentence (verdict sentence)) ∧
        (outcome.ending = .exit 0 ↔
          ∀ sentence ∈ sentences, ∃ tree, verdict sentence = .valid tree) ∧
        (outcome.ending = .exit 1 ↔
          ∃ sentence ∈ sentences, ∃ refusal,
            verdict sentence = .invalid refusal)) ∧
      (∀ dataFile fault, request.dataFile = some dataFile →
        opened.text dataFile = .error fault →
        outcome.stdout = grammarText ∧ outcome.ending = .fault fault) ∧
      ∀ sentence,
        Shows sentence request.json (verdict sentence)
            (block request.json sentence (verdict sentence)) ∧
          block request.json sentence (verdict sentence) ≠ "" := by
  intro outcome grammarText verdict
  have short := limit_lt_of_read accepted limited
  have checker : request.checker = ⟨Grammar.toy, some limit⟩ := by
    rw [Request.checker, limited, WordLimit.value?]
  obtain ⟨stdout, ending⟩ := Request.outcomeOn_of_openLog openLog
  have started : (request.outcomeOn files clock).1 = outcome := by
    simp only [outcome, outcomeOn, accepted]
  rw [started] at stdout ending
  refine ⟨?_, ?_, ?_⟩
  · intro fromFile adds sentences
    have report := Request.report_course limited short adds.fileSentences_eq
    rw [← stdout, ← ending, checker] at report
    exact report
  · intro dataFile fault named unreadable
    have course := Request.course_of_error
      (Request.fileSentences_of_error named unreadable)
    rw [course] at stdout ending
    exact ⟨stdout, ending⟩
  · intro sentence
    have writable :=
      Request.check_isWritable_of_short limited short sentence
    rw [checker] at writable
    have shows := shows_block request.json sentence writable
    exact ⟨shows, shows.ne_empty⟩

/-- A directory with a data file. -/
def dataFiles : FileTree where
  root := .directory [("more.txt", .file "the cat talks\n \n".toUTF8)]
  here := []

/-- The arguments with one sentence, a limit and a data file. -/
def dataArguments (dataFile : String) : List String :=
  ["--show_grammar", "--max_tokens", "3", "--data_file", dataFile,
    "A dog barks"]

def dataRequest (dataFile : String) : Request :=
  { Request.initial with
    sentences := ["A dog barks"]
    dataFile := some dataFile
    showGrammar := true
    limit := .most 3 }

theorem text_dataFiles :
    dataFiles.text "more.txt" = .ok "the cat talks\n \n" := by
  have relative : "more.txt".startsWith "/" = false := by
    simp
  rw [FileTree.text, FileTree.content, FileTree.locate, relative]
  rfl

theorem text_dataFiles_of_missing :
    dataFiles.text "other.txt" = .error .notFound := by
  have relative : "other.txt".startsWith "/" = false := by
    simp
  rw [FileTree.text, FileTree.content, FileTree.locate, relative]
  rfl

/-- The sentence of the data file has its block after an invalid one; without
the data file there is only the grammar. -/
theorem outcomeOn_report_dataFiles :
    let outcome (dataFile : String) :=
      (outcomeOn (dataArguments dataFile) dataFiles (.ofMilliseconds 0)).1
    let verdict (sentence : String) :=
      (Checker.mk Grammar.toy (some 3)).check (some sentence)
    ((outcome "more.txt").stdout = Grammar.toy.toText ++
        String.join (["A dog barks", "the cat talks"].map fun sentence =>
          block false sentence (verdict sentence)) ∧
      (outcome "more.txt").ending = .exit 1) ∧
      (outcome "other.txt").stdout = Grammar.toy.toText ∧
      (outcome "other.txt").ending = .fault .notFound := by
  intro outcome verdict
  constructor
  · have accepted : read (dataArguments "more.txt") =
        .request (dataRequest "more.txt") :=
      rfl
    have openLog := (dataRequest "more.txt").openLog_of_noLog rfl dataFiles
      (.ofMilliseconds 0)
    have adds :
        (dataRequest "more.txt").AddsFromFile dataFiles ["the cat talks"] :=
      .lines rfl text_dataFiles
    obtain ⟨stdout, _, exit_one_iff⟩ :=
      (outcomeOn_report accepted rfl openLog).1 _ adds
    exact ⟨stdout, exit_one_iff.mpr ⟨"A dog barks", List.mem_cons_self, _, rfl⟩⟩
  · have accepted : read (dataArguments "other.txt") =
        .request (dataRequest "other.txt") :=
      rfl
    have openLog := (dataRequest "other.txt").openLog_of_noLog rfl dataFiles
      (.ofMilliseconds 0)
    exact (outcomeOn_report accepted rfl openLog).2.1 "other.txt" .notFound rfl
      text_dataFiles_of_missing

end CommandLine

end SentenceChart
