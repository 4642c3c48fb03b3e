import SentenceChart.Proofs.CommandLine.Report
import SentenceChart.Proofs.Spacing
import SentenceChart.Proofs.Text.Lines

/-!
# Files of sentences

A file holds sentences if each of them has a line of its own, in order, and all
other lines are blank.  The lines may have different ends, and the last one may
have none.  Such a file is read as the list of its sentences, whether or not its
line ends are made alike before.
-/

namespace SentenceChart

namespace Sentence

/-- A text with the sentences on lines of their own.  Blank lines may come before,
between and after them, and the last line of all may be without its end. -/
inductive FileHolds : List String → String → Prop where
  | lastBlank {line : String} :
      Text.IsLine line.toList → IsBlank line → FileHolds [] line
  | lastSentence {line : String} :
      Text.IsLine line.toList → ¬IsBlank line → FileHolds [line] line
  | blank {line ending rest : String} {sentences : List String} :
      Text.IsLine line.toList → IsBlank line →
      Text.IsLineEnd ending.toList → FileHolds sentences rest →
      FileHolds sentences (line ++ ending ++ rest)
  | sentence {line ending rest : String} {sentences : List String} :
      Text.IsLine line.toList → ¬IsBlank line →
      Text.IsLineEnd ending.toList → FileHolds sentences rest →
      FileHolds (line :: sentences) (line ++ ending ++ rest)

/-- The text with its line ends made alike. -/
def unifyLineEnds (text : String) : String :=
  String.ofList (Text.unifyLineEnds text.toList)

theorem ofFile_unifyLineEnds (text : String) :
    ofFile (unifyLineEnds text) = ofFile text := by
  rw [ofFile, unifyLineEnds, String.toList_ofList, Text.lines_unifyLineEnds,
    ofFile]

theorem ofFile_of_lines_eq {text line : String} {more : List (List Char)}
    (split : Text.lines text.toList = line.toList :: more) :
    ofFile text = (if IsBlank line then [] else [line]) ++
      (more.filter (!Text.isBlankText ·)).map String.ofList := by
  rw [ofFile, split]
  by_cases blank : IsBlank line
  · have blankText := isBlankText_iff.mpr blank
    simp [blank, blankText]
  · have notBlankText : Text.isBlankText line.toList = false :=
      Bool.eq_false_iff.mpr (mt isBlankText_iff.mp blank)
    simp [blank, notBlankText]

theorem ofFile_of_isLine {line : String} (isLine : Text.IsLine line.toList) :
    ofFile line = if IsBlank line then [] else [line] := by
  by_cases empty : line.toList = []
  · have blank : IsBlank line := by simp [IsBlank, empty]
    rw [ofFile, empty, if_pos blank]
    rfl
  · rw [ofFile_of_lines_eq (Text.lines_of_isLine isLine empty), List.filter_nil,
      List.map_nil, List.append_nil]

/-- The first line adds itself to the sentences of the rest unless it is blank. -/
theorem ofFile_append {line ending : String}
    (isLine : Text.IsLine line.toList) (ends : Text.IsLineEnd ending.toList)
    (rest : String) :
    ofFile (line ++ ending ++ rest) =
      (if IsBlank line then [] else [line]) ++ ofFile rest := by
  have asText : (line ++ ending ++ rest).toList =
      line.toList ++ (ending.toList ++ rest.toList) := by
    simp
  rcases Text.lines_append_lineEnd isLine ends rest.toList with
    split | ⟨more, restSplit, split⟩
  · rw [← asText] at split
    exact ofFile_of_lines_eq split
  · rw [← asText] at split
    rw [ofFile_of_lines_eq split]
    have sameRest : ofFile rest =
        (more.filter (!Text.isBlankText ·)).map String.ofList := by
      rw [ofFile, restSplit]
      rfl
    rw [sameRest]

theorem FileHolds.ofFile_eq {sentences : List String} {text : String}
    (holds : FileHolds sentences text) : ofFile text = sentences := by
  induction holds with
  | lastBlank isLine blank => rw [ofFile_of_isLine isLine, if_pos blank]
  | lastSentence isLine notBlank =>
      rw [ofFile_of_isLine isLine, if_neg notBlank]
  | blank isLine blank ends _ ih =>
      rw [ofFile_append isLine ends, if_pos blank, List.nil_append, ih]
  | sentence isLine notBlank ends _ ih =>
      rw [ofFile_append isLine ends, if_neg notBlank, List.singleton_append, ih]

theorem FileHolds.of_isLine {line : String}
    (isLine : Text.IsLine line.toList) :
    FileHolds (if IsBlank line then [] else [line]) line := by
  by_cases blank : IsBlank line
  · rw [if_pos blank]
    exact .lastBlank isLine blank
  · rw [if_neg blank]
    exact .lastSentence isLine blank

theorem FileHolds.line_append {line ending rest : String}
    {sentences : List String} (isLine : Text.IsLine line.toList)
    (ends : Text.IsLineEnd ending.toList) (later : FileHolds sentences rest) :
    FileHolds ((if IsBlank line then [] else [line]) ++ sentences)
      (line ++ ending ++ rest) := by
  by_cases blank : IsBlank line
  · rw [if_pos blank, List.nil_append]
    exact .blank isLine blank ends later
  · rw [if_neg blank, List.singleton_append]
    exact .sentence isLine blank ends later

theorem fileHolds_ofFile (text : String) : FileHolds (ofFile text) text := by
  induction sizeEq : text.toList.length using Nat.strong_induction_on
    generalizing text with
  | h size ih =>
      rcases Text.isLine_or_exists_lineEnd text.toList with
        isLine | ⟨line, c, rest, split, isLine, ends⟩
      · rw [ofFile_of_isLine isLine]
        exact .of_isLine isLine
      · -- A carriage return before a line feed is taken for an end of its own, so
        -- that the rest begins with an empty line.
        have parts : text = String.ofList line ++ String.ofList [c] ++
            String.ofList rest := by
          apply String.toList_inj.mp
          simp [split]
        have shorter : rest.length < size := by
          rw [← sizeEq, split, List.length_append, List.length_cons]
          omega
        have later := ih rest.length shorter (String.ofList rest) (by simp)
        have firstLine : Text.IsLine (String.ofList line).toList := by
          rwa [String.toList_ofList]
        have ended : Text.IsLineEnd (String.ofList [c]).toList := by
          rw [String.toList_ofList]
          exact .single ends
        rw [parts, ofFile_append firstLine ended]
        exact later.line_append firstLine ended

theorem fileHolds_iff (sentences : List String) (text : String) :
    FileHolds sentences text ↔ ofFile text = sentences := by
  constructor
  · exact FileHolds.ofFile_eq
  · intro read
    rw [← read]
    exact fileHolds_ofFile text

end Sentence

theorem FileTree.text_of_content {files : FileTree} {path text : String}
    (stored : files.content path = .ok text.toUTF8) :
    files.text path = .ok text := by
  have decoded : String.fromUTF8? text.toUTF8 = some text :=
    dif_pos text.isValidUTF8
  rw [FileTree.text, stored]
  simp only [decoded]

namespace CommandLine

/-- A file is read as a list of sentences exactly if it holds these sentences, in
order and with the blanks at their ends.  It does not matter whether its line ends
are made alike first, and so a run that names the file has exactly these sentences
from it. -/
theorem fileHolds_iff_read (sentences : List String) (text : String) :
    (Sentence.FileHolds sentences text ↔
        Sentence.ofFile text = sentences) ∧
      (Sentence.FileHolds sentences text ↔
        Sentence.ofFile (Sentence.unifyLineEnds text) = sentences) ∧
      ∀ (request : Request) (files : FileTree) (path : String),
        request.dataFile = some path →
        files.content path = .ok text.toUTF8 →
        (Sentence.FileHolds sentences text ↔
          request.fileSentences (files.text path) = .ok sentences) := by
  have read := Sentence.fileHolds_iff sentences text
  refine ⟨read, ?_, ?_⟩
  · rw [Sentence.ofFile_unifyLineEnds, read]
  · intro request files path named stored
    have found := FileTree.text_of_content stored
    rw [Request.fileSentences, named, found, read]
    exact ⟨congrArg Except.ok, Except.ok.inj⟩

/-- A text in which a carriage return and a line feed may end one line or two, with
blanks around a sentence. -/
def mixedText : String :=
  "\r\n the cat  talks \u2028a dog eats\r\n\t"

/-- A request that names a file. -/
def mixedRequest : Request :=
  { Request.initial with dataFile := some "mixed.txt" }

def mixedFiles : FileTree where
  root := .directory [("mixed.txt", .file mixedText.toUTF8)]
  here := []

theorem fileHolds_mixedText :
    Sentence.FileHolds [" the cat  talks ", "a dog eats"] mixedText := by
  have returned : Text.IsLineEnd "\r".toList := by
    simpa using Text.IsLineEnd.single (c := '\r') (by decide)
  have fed : Text.IsLineEnd "\n".toList := by
    simpa using Text.IsLineEnd.single (c := '\n') (by decide)
  have separated : Text.IsLineEnd "\u2028".toList := by
    simpa using Text.IsLineEnd.single (c := '\u2028') (by decide)
  have emptyLine : Text.IsLine "".toList := by decide
  have emptyBlank : Sentence.IsBlank "" := by decide
  have lastLine : Sentence.FileHolds [] "\t" :=
    .lastBlank (by decide) (by decide)
  have asLines : mixedText =
      "" ++ "\r" ++ ("" ++ "\n" ++ (" the cat  talks " ++ "\u2028" ++
        ("a dog eats" ++ "\r" ++ ("" ++ "\n" ++ "\t")))) := by
    decide
  rw [asLines]
  apply Sentence.FileHolds.blank emptyLine emptyBlank returned
  apply Sentence.FileHolds.blank emptyLine emptyBlank fed
  apply Sentence.FileHolds.sentence (by decide) (by decide) separated
  apply Sentence.FileHolds.sentence (by decide) (by decide) returned
  exact .blank emptyLine emptyBlank fed lastLine

theorem content_mixedFiles :
    mixedFiles.content "mixed.txt" = .ok mixedText.toUTF8 := by
  have relative : "mixed.txt".startsWith "/" = false := by
    simp
  rw [FileTree.content, FileTree.locate, relative]
  rfl

/-- The carriage returns and line feeds are taken for the ends of two lines here. -/
theorem fileHolds_iff_read_mixed :
    Sentence.FileHolds [" the cat  talks ", "a dog eats"] mixedText ∧
      mixedRequest.dataFile = some "mixed.txt" ∧
      mixedFiles.content "mixed.txt" = .ok mixedText.toUTF8 ∧
      Sentence.ofFile (Sentence.unifyLineEnds mixedText) =
        [" the cat  talks ", "a dog eats"] ∧
      mixedRequest.fileSentences (mixedFiles.text "mixed.txt") =
        .ok [" the cat  talks ", "a dog eats"] := by
  have holds := fileHolds_mixedText
  obtain ⟨_, alike, byRun⟩ :=
    fileHolds_iff_read [" the cat  talks ", "a dog eats"] mixedText
  have read := byRun mixedRequest mixedFiles "mixed.txt" rfl content_mixedFiles
  exact ⟨holds, rfl, content_mixedFiles, alike.mp holds, read.mp holds⟩

end CommandLine

end SentenceChart
