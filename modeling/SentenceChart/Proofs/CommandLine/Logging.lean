import Mathlib.Data.List.Basic
import SentenceChart.Proofs.CommandLine.FileTree
import SentenceChart.Proofs.CommandLine.Report

/-!
# Logs and reports

Two runs that differ in their choice of logging only have the same report and
the same end, as long as opening their logs spares the data file.  If it makes
nothing at the path of the data file, a file that can be read is read as before
and one that cannot does not become readable.  The reason why it cannot be read
may change, but not if nothing is made on the way to it either.
-/

namespace SentenceChart.CommandLine

namespace Request

/-- The request without its choice of logging. -/
def withoutLog (request : Request) : Request :=
  { request with
    logDir := none
    verbose := false }

/-- Opening the log makes nothing at the path of the data file, and writes to
another file. -/
structure SparesData (request : Request) (files opened : FileTree)
    (log : String) : Prop where
  makesNothing : ∀ path, request.dataFile = some path →
    files.hasEntry path = false → opened.hasEntry path = false
  writesElsewhere : ∀ path, request.dataFile = some path →
    request.logDir.isSome = true → opened.locate path ≠ opened.locate log

/-- Opening the log makes nothing at a place that the path of the data file
leads through. -/
def SparesWay (request : Request) (files opened : FileTree) : Prop :=
  ∀ path, request.dataFile = some path → ∀ place ∈ files.way path,
    files.isTaken place = false → opened.isTaken place = false

@[simp] theorem dataFile_withoutLog (request : Request) :
    request.withoutLog.dataFile = request.dataFile :=
  rfl

@[simp] theorem course_withoutLog (request : Request)
    (text : Except FileFault String) :
    request.withoutLog.course text = request.course text :=
  rfl

section Course

variable {request : Request} {text text' : Except FileFault String}

theorem course_eq_of_fileSentences_eq
    (same : request.fileSentences text = request.fileSentences text') :
    request.course text = request.course text' := by
  rw [course, course, same]

/-- The report does not depend on why the data file cannot be read. -/
theorem course_of_toOption_eq
    (same : ∀ path, request.dataFile = some path →
      text.toOption = text'.toOption) :
    (request.course text).stdout = (request.course text').stdout ∧
      (request.course text = request.course text' ∨
        ∃ path fault fault', request.dataFile = some path ∧
          text = .error fault ∧ text' = .error fault' ∧
          (request.course text).ending = .fault fault ∧
          (request.course text').ending = .fault fault') := by
  cases named : request.dataFile with
  | none =>
      have course : request.course text = request.course text' :=
        course_eq_of_fileSentences_eq (by simp only [fileSentences, named])
      exact ⟨by rw [course], .inl course⟩
  | some path =>
      have agree := same path named
      cases text with
      | ok content =>
          cases text' with
          | ok content' =>
              cases agree
              exact ⟨rfl, .inl rfl⟩
          | error fault' => cases agree
      | error fault =>
          cases text' with
          | ok content' => cases agree
          | error fault' =>
              have course (fault : FileFault) :
                  request.course (.error fault) =
                    ⟨request.preamble, [], .fault fault⟩ := by
                apply course_of_error
                rw [fileSentences, named]
                rfl
              rw [course fault, course fault']
              exact ⟨rfl, .inr ⟨path, fault, fault', rfl, rfl, rfl, rfl, rfl⟩⟩

end Course

section Opened

variable {request : Request} {files opened : FileTree} {clock : Clock}
  {log path : String}

/-- Opening the log keeps the files, except for the log file. -/
theorem growsInto_of_openLog
    (openLog : request.openLog files clock = .ok (opened, log)) :
    ∃ written, files.GrowsInto opened written ∧
      ∀ place, written = some place →
        request.logDir.isSome = true ∧ opened.locate log = .ok place := by
  rw [Request.openLog] at openLog
  split at openLog
  · cases openLog
    refine ⟨none, .refl files none, ?_⟩
    intro place isWritten
    cases isWritten
  · next directory named =>
      split at openLog
      · cases openLog
      · next made making =>
          dsimp only at openLog
          split at openLog
          · cases openLog
          · next location writable =>
              cases openLog
              have makes : files.GrowsInto _ (some location) :=
                files.growsInto_makeDirectories directory.toList
              rw [making] at makes
              have writes := made.growsInto_append location
                (openingLine
                  (logPath (Path.ofLocation files.here) directory clock)
                  clock.time).toUTF8
              refine ⟨some location, makes.trans writes, ?_⟩
              intro place isWritten
              cases isWritten
              exact ⟨by rw [named]; rfl,
                writes.locate_of_ok (FileTree.locate_of_writable writable)⟩

theorem openLog_of_log {made : FileTree} {directory : String}
    {location : Location} (named : request.logDir = some directory)
    (making : files.makeDirectories directory.toList = (made, none))
    (shortest : logPath (Path.ofLocation files.here) directory clock = log)
    (writable : made.writable log = .ok location) :
    request.openLog files clock =
      .ok (made.append location (openingLine log clock.time).toUTF8, log) := by
  rw [openLog, named]
  simp only [making, shortest, writable]

theorem sparesData_of_noLog (noLog : request.logDir = none) :
    request.SparesData files files log where
  makesNothing _ _ missing := missing
  writesElsewhere _ _ logged := by
    rw [noLog] at logged
    cases logged

namespace SparesData

theorem of_named (named : request.dataFile = some path)
    (makesNothing : files.hasEntry path = false → opened.hasEntry path = false)
    (writesElsewhere : opened.locate path ≠ opened.locate log) :
    request.SparesData files opened log := by
  constructor
  · intro other namedOther
    cases namedOther.symm.trans named
    exact makesNothing
  · intro other namedOther _
    cases namedOther.symm.trans named
    exact writesElsewhere

variable (spares : request.SparesData files opened log)
  (openLog : request.openLog files clock = .ok (opened, log))
  (named : request.dataFile = some path)

include spares openLog named

theorem growsInto_elsewhere :
    ∃ written, files.GrowsInto opened written ∧
      ∀ place, written = some place → opened.locate path ≠ .ok place := by
  obtain ⟨written, grows, isLog⟩ := growsInto_of_openLog openLog
  refine ⟨written, grows, fun place same => ?_⟩
  obtain ⟨logged, reached⟩ := isLog place same
  rw [← reached]
  exact spares.writesElsewhere path named logged

theorem toOption_text :
    (opened.text path).toOption = (files.text path).toOption := by
  obtain ⟨written, grows, elsewhere⟩ :=
    spares.growsInto_elsewhere openLog named
  cases there : files.hasEntry path with
  | true => rw [grows.text_eq there elsewhere]
  | false =>
      obtain ⟨fault, unreadable⟩ := FileTree.text_of_noEntry there
      obtain ⟨fault', unreadable'⟩ := FileTree.text_of_noEntry
        (spares.makesNothing path named there)
      rw [unreadable, unreadable']
      rfl

theorem text_eq_of_sparesWay (way : request.SparesWay files opened) :
    opened.text path = files.text path := by
  obtain ⟨written, grows, elsewhere⟩ :=
    spares.growsInto_elsewhere openLog named
  exact grows.text_eq_of_way (spares.makesNothing path named) elsewhere
    (way path named)

end SparesData

end Opened

end Request

/-- Logging does not change the report and the end of a run: with the same files
and the same request but for the choice of logging, two runs whose logs can be
opened and spare the data file have the same report, and the same end unless
both fail to read the data file.  They fail in the same way if opening the logs
makes nothing on the way to it. -/
theorem outcomeOn_eq_of_other_logging {arguments arguments' : List String}
    {request request' : Request} {files opened opened' : FileTree}
    {clock clock' : Clock} {log log' : String}
    (accepted : read arguments = .request request)
    (accepted' : read arguments' = .request request')
    (otherLogging : request'.withoutLog = request.withoutLog)
    (openLog : request.openLog files clock = .ok (opened, log))
    (openLog' : request'.openLog files clock' = .ok (opened', log'))
    (spares : request.SparesData files opened log)
    (spares' : request'.SparesData files opened' log') :
    let outcome := (outcomeOn arguments files clock).1
    let outcome' := (outcomeOn arguments' files clock').1
    outcome.stdout = outcome'.stdout ∧
      (outcome.ending = outcome'.ending ∨
        ∃ path fault fault', request.dataFile = some path ∧
          opened.text path = .error fault ∧
          opened'.text path = .error fault' ∧
          outcome.ending = .fault fault ∧
          outcome'.ending = .fault fault') ∧
      (request.SparesWay files opened → request'.SparesWay files opened' →
        outcome.ending = outcome'.ending) := by
  intro outcome outcome'
  have started : (request.outcomeOn files clock).1 = outcome := by
    simp only [outcome, outcomeOn, accepted]
  have started' : (request'.outcomeOn files clock').1 = outcome' := by
    simp only [outcome', outcomeOn, accepted']
  have sameFile : request'.dataFile = request.dataFile := by
    rw [← request'.dataFile_withoutLog, otherLogging,
      request.dataFile_withoutLog]
  obtain ⟨stdout, ending⟩ := Request.outcomeOn_of_openLog openLog
  obtain ⟨stdout', ending'⟩ := Request.outcomeOn_of_openLog openLog'
  rw [started] at stdout ending
  rw [started', sameFile, ← request'.course_withoutLog, otherLogging,
    request.course_withoutLog] at stdout' ending'
  rw [stdout, stdout', ending, ending']
  -- Both logs leave what can be read as it was before either was opened.
  have sameText : ∀ path, request.dataFile = some path →
      (opened.text (request.dataFile.getD "")).toOption =
        (opened'.text (request.dataFile.getD "")).toOption := by
    intro path named
    rw [named, Option.getD_some, spares.toOption_text openLog named,
      spares'.toOption_text openLog' (sameFile.trans named)]
  obtain ⟨sameReport, sameEnd⟩ := Request.course_of_toOption_eq sameText
  refine ⟨sameReport, ?_, ?_⟩
  · rcases sameEnd with same | ⟨path, fault, fault', named, differ⟩
    · exact .inl (congrArg Course.ending same)
    · rw [named, Option.getD_some] at differ ⊢
      exact .inr ⟨path, fault, fault', rfl, differ⟩
  · intro way way'
    cases named : request.dataFile with
    | none =>
        rcases sameEnd with same | ⟨path, fault, fault', noFile, _⟩
        · rw [named] at same
          exact congrArg Course.ending same
        · rw [named] at noFile
          cases noFile
    | some path =>
        rw [Option.getD_some, spares.text_eq_of_sparesWay openLog named way,
          spares'.text_eq_of_sparesWay openLog' (sameFile.trans named) way']

/-- The first moment. -/
def firstClock : Clock where
  stamp := "19700101-000000"
  time := "1970-01-01 00:00:00,000"

/-- The path of a log that is opened at that moment. -/
def firstLog : String :=
  "/new/log_19700101-000000.log"

/-- The arguments with a data file and a log directory. -/
def loggedArguments (dataFile : String) : List String :=
  dataArguments dataFile ++ ["--log_dir", "new", "--verbose"]

def loggedRequest (dataFile : String) : Request :=
  { dataRequest dataFile with
    logDir := some "new"
    verbose := true }

/-- The directory with the data file after the log was opened. -/
def loggedFiles : FileTree where
  root := .directory
    [("more.txt", .file "the cat talks\n \n".toUTF8),
      ("new", .directory [("log_19700101-000000.log",
        .file (openingLine firstLog firstClock.time).toUTF8)])]
  here := []

theorem logPath_firstClock : logPath "" "new" firstClock = firstLog := by
  have unslashed : "new".endsWith "/" = false ∧ "".endsWith "/" = false := by
    simp only [String.endsWith_eq_endsWith_toSlice,
      String.Slice.endsWith_string_eq_false_iff]
    decide
  have name : firstClock.logName.startsWith "/" = false := by
    rw [String.startsWith_string_eq_false_iff]
    decide
  have relative :
      "new/log_19700101-000000.log".startsWith "/" = false := by
    simp
  have single : firstLog.startsWith "//" = false := by
    simp [firstLog]
  have below :
      Path.join "new" firstClock.logName = "new/log_19700101-000000.log" := by
    rw [Path.join, name, unslashed.1]
    rfl
  have absolute : Path.join "" "new/log_19700101-000000.log" = firstLog := by
    rw [Path.join, relative, unslashed.2]
    rfl
  rw [logPath, below, absolute, Path.normal, single]
  rfl

theorem locate_firstLog (tree : FileTree) :
    tree.locate firstLog =
      tree.follow [] ["", "new", "log_19700101-000000.log"] := by
  have absolute : firstLog.startsWith "/" = true := by
    simp [firstLog]
  rw [FileTree.locate, absolute]
  rfl

theorem locate_firstLog_loggedFiles :
    loggedFiles.locate firstLog =
      .ok ["new", "log_19700101-000000.log"] :=
  locate_firstLog loggedFiles

theorem openLog_loggedRequest (dataFile : String) :
    (loggedRequest dataFile).openLog dataFiles firstClock =
      .ok (loggedFiles, firstLog) := by
  have making : dataFiles.makeDirectories "new".toList =
      (⟨dataFiles.root.addDirectory ["new"], []⟩, none) := by
    have relative :
        (String.ofList (Path.dropSlashes "new".toList)).startsWith "/" =
          false := by
      rw [String.startsWith_string_eq_false_iff]
      decide
    rw [FileTree.makeDirectories_of_parent_eq_nil _ (by decide) (by decide),
      FileTree.ensureOne, FileTree.makeOne, FileTree.locate, relative]
    rfl
  have writable :
      (FileTree.mk (dataFiles.root.addDirectory ["new"]) []).writable
        firstLog = .ok ["new", "log_19700101-000000.log"] := by
    rw [FileTree.writable, locate_firstLog]
    rfl
  rw [Request.openLog_of_log rfl making logPath_firstClock writable]
  rfl

/-- A log in a new directory leaves the run over the data file as it is. -/
theorem outcomeOn_eq_loggedArguments :
    let quiet := (outcomeOn (dataArguments "more.txt") dataFiles firstClock).1
    let logged :=
      (outcomeOn (loggedArguments "more.txt") dataFiles firstClock).1
    quiet.stdout = logged.stdout ∧ quiet.ending = logged.ending := by
  have relative : "more.txt".startsWith "/" = false := by
    simp
  have there : dataFiles.hasEntry "more.txt" = true := by
    rw [FileTree.hasEntry, FileTree.locate, relative]
    rfl
  have elsewhere :
      loggedFiles.locate "more.txt" ≠ loggedFiles.locate firstLog := by
    have reached : loggedFiles.locate "more.txt" = .ok ["more.txt"] := by
      rw [FileTree.locate, relative]
      rfl
    rw [reached, locate_firstLog_loggedFiles, ne_eq, Except.ok.injEq]
    decide
  have spares : (loggedRequest "more.txt").SparesData dataFiles loggedFiles
      firstLog := by
    refine .of_named rfl ?_ elsewhere
    intro missing
    rw [there] at missing
    cases missing
  have way : (loggedRequest "more.txt").SparesWay dataFiles loggedFiles := by
    have places : dataFiles.way "more.txt" = [[], ["more.txt"]] := by
      rw [FileTree.way, relative]
      rfl
    intro path named place onWay free
    cases named
    rw [places, List.mem_pair] at onWay
    rcases onWay with rfl | rfl <;> cases free
  have accepted :
      read (dataArguments "more.txt") = .request (dataRequest "more.txt") :=
    rfl
  have accepted' :
      read (loggedArguments "more.txt") = .request (loggedRequest "more.txt") :=
    rfl
  have noLog :=
    (dataRequest "more.txt").openLog_of_noLog rfl dataFiles firstClock
  obtain ⟨stdout, -, ending⟩ := outcomeOn_eq_of_other_logging accepted accepted'
    rfl noLog (openLog_loggedRequest "more.txt")
    (Request.sparesData_of_noLog rfl) spares
  exact ⟨stdout, ending (fun _ _ _ _ free => free) way⟩

theorem ending_of_unreadable {arguments : List String} {request : Request}
    {files opened : FileTree} {clock : Clock} {log path : String}
    {fault : FileFault} (accepted : read arguments = .request request)
    (openLog : request.openLog files clock = .ok (opened, log))
    (named : request.dataFile = some path)
    (unreadable : opened.text path = .error fault) :
    (outcomeOn arguments files clock).1.ending = .fault fault := by
  have ending := (Request.outcomeOn_of_openLog openLog).2
  rw [Request.course_of_error
    (Request.fileSentences_of_error named unreadable)] at ending
  simpa only [outcomeOn, accepted] using ending

/-- A path through the log directory. -/
def throughLog : String :=
  "new/../more.txt/x"

/-- The log directory makes nothing at the path of the data file, but the path
leads through it, so that it ends at a file instead of at nothing. -/
theorem fault_depends_on_logging :
    let arguments := dataArguments throughLog
    let arguments' := loggedArguments throughLog
    let request := dataRequest throughLog
    let request' := loggedRequest throughLog
    read arguments = .request request ∧ read arguments' = .request request' ∧
      request'.withoutLog = request.withoutLog ∧
      request.openLog dataFiles firstClock = .ok (dataFiles, "") ∧
      request'.openLog dataFiles firstClock = .ok (loggedFiles, firstLog) ∧
      request.SparesData dataFiles dataFiles "" ∧
      request'.SparesData dataFiles loggedFiles firstLog ∧
      (outcomeOn arguments dataFiles firstClock).1.ending = .fault .notFound ∧
      (outcomeOn arguments' dataFiles firstClock).1.ending =
        .fault .notDirectory := by
  have accepted :
      read (dataArguments throughLog) = .request (dataRequest throughLog) :=
    rfl
  have accepted' :
      read (loggedArguments throughLog) = .request (loggedRequest throughLog) :=
    rfl
  have relative : throughLog.startsWith "/" = false := by
    simp [throughLog]
  have before : dataFiles.locate throughLog = .error .notFound := by
    rw [FileTree.locate, relative]
    rfl
  have after : loggedFiles.locate throughLog = .error .notDirectory := by
    rw [FileTree.locate, relative]
    rfl
  have openLog := openLog_loggedRequest throughLog
  have noLog :=
    (dataRequest throughLog).openLog_of_noLog rfl dataFiles firstClock
  have spares : (loggedRequest throughLog).SparesData dataFiles loggedFiles
      firstLog := by
    apply Request.SparesData.of_named rfl
    · intro _
      rw [FileTree.hasEntry, after]
    · intro same
      rw [after, locate_firstLog_loggedFiles] at same
      cases same
  exact ⟨accepted, accepted', rfl, noLog, openLog,
    Request.sparesData_of_noLog rfl, spares,
    ending_of_unreadable accepted noLog rfl
      (FileTree.text_of_locate_error before),
    ending_of_unreadable accepted' openLog rfl
      (FileTree.text_of_locate_error after)⟩

end SentenceChart.CommandLine
