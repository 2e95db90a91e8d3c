import BooleanRetrieval.Proofs.Encoding.Names
import BooleanRetrieval.Proofs.Text.WordRuns

/-!
# Reading text files

A text file is decoded and then read line by line. This finds the words of the whole text
(`lines_lose_no_word`), although words are looked for in composed texts: the composed form of a text is
made of the composed forms of its lines (`composed_eq_lines`), because nothing is ordered or joined across
a line break, and no line break belongs to a word.
-/

set_option autoImplicit false

namespace BooleanRetrieval

namespace Text

/-- Composing a text is composing its lines and leaving their ends as they are. -/
theorem composed_eq_lines (cs : List Char) :
    composed cs =
      (collectLines isTextBreak [] [] cs).flatMap fun l => composed l.content ++ l.ending := by
  have hlines := flatMap_collectLines (f := composed) (e := fun b => [b]) rfl
    (fun hb => composed_append_separator (wordBreak_of_isTextBreak hb).toSeparator) [] [] cs
  simp only [List.flatMap_singleton'] at hlines
  exact hlines.symm

/-- What ends a line of running text: a break, or the two breaks that count as one. -/
def IsLineEnding (ending : List Char) : Prop :=
  ending = ['\r', '\n'] ∨ ∃ b, isTextBreak b = true ∧ ending = [b]

/-- A line ending cuts the words of a text, whatever stands on its sides. -/
theorem wordRuns_append_ending {ending : List Char} (h : IsLineEnding ending) (xs ys : List Char) :
    wordRuns (xs ++ ending ++ ys) = wordRuns xs ++ wordRuns ys := by
  rw [List.append_assoc]
  rcases h with rfl | ⟨b, hb, rfl⟩
  · have hfeed : wordRuns ('\n' :: ys) = wordRuns [] ++ wordRuns ys :=
      wordRuns_append_cons (wordBreak_of_isTextBreak rfl) [] ys
    have hreturn : wordRuns (xs ++ '\r' :: '\n' :: ys) = wordRuns xs ++ wordRuns ('\n' :: ys) :=
      wordRuns_append_cons (wordBreak_of_isTextBreak rfl) xs ('\n' :: ys)
    exact hreturn.trans (by rw [hfeed, wordRuns_nil, List.nil_append])
  · exact wordRuns_append_cons (wordBreak_of_isTextBreak hb) xs ys

/-- The words of a list of characters are its runs. -/
theorem words_ofList (cs : List Char) : words (.ofList cs) = (wordRuns cs).map String.ofList := by
  rw [words, String.toList_ofList]

end Text

/-- Every file has a text in the usual encoding. -/
theorem Encoding.readText_defaultEncoding (bytes : List UInt8) :
    Encoding.readText Reader.defaultEncoding bytes = .ok (Encoding.utf8Marked.decodeText bytes) :=
  Encoding.readText_of_ofName? (Encoding.ofName?_commonName .utf8Marked) bytes

/-- The words of a reading that just gives words are these words. -/
theorem Reading.words_ofWords (words : List String) : (ofWords words).words = words := by
  unfold ofWords Reading.words
  rw [List.filterMap_map]
  exact List.filterMap_some

namespace Reader

/-- Reading a text gives the words of the decoded text to the end. -/
theorem read_text_eq (name : String) (bytes : List UInt8) :
    (text name).read bytes =
      readDecoded name (fun cs => .ofWords (Text.words (.ofList cs))) bytes := by
  have hlines (cs : List Char) : lineWords cs = Text.words (.ofList cs) := by
    rw [lineWords_eq_wordsOf, Text.words_ofList]
    rfl
  unfold text
  dsimp only
  simp only [hlines]

/-- The reader of plain text gives the words of the decoded text. -/
theorem read_text (bytes : List UInt8) :
    (text defaultEncoding).read bytes =
      .ofWords (Text.words (.ofList (Encoding.utf8Marked.decodeText bytes))) := by
  rw [read_text_eq, readDecoded, Encoding.readText_defaultEncoding]

/-- The words that are read from a text file line by line are the words of the decoded text as a whole, in
whichever encoding it is decoded; in the usual one, reading never fails. Composing the text composes its
lines, and no line ending changes a word next to it. -/
theorem lines_lose_no_word :
    (∀ bytes, (text defaultEncoding).read bytes =
        .ofWords (Text.words (.ofList (Encoding.utf8Marked.decodeText bytes)))) ∧
      (∀ name bytes, (text name).read bytes =
        readDecoded name (fun cs => .ofWords (Text.words (.ofList cs))) bytes) ∧
      (∀ cs, Text.composed cs = (Text.collectLines Text.isTextBreak [] [] cs).flatMap fun l =>
        Text.composed l.content ++ l.ending) ∧
      ∀ before ending after, Text.IsLineEnding ending →
        Text.words (.ofList (before ++ ending ++ after)) =
          Text.words (.ofList before) ++ Text.words (.ofList after) := by
  refine ⟨read_text, read_text_eq, Text.composed_eq_lines, fun before ending after hending => ?_⟩
  rw [Text.words_ofList, Text.words_ofList, Text.words_ofList, Text.wordRuns_append_ending hending,
    List.map_append]

/-- A line separator between a letter and a combining mark: each stays in a word of its own. -/
theorem lines_lose_no_word_leading_mark :
    (text defaultEncoding).read [0x61, 0xE2, 0x80, 0xA8, 0xCC, 0x81, 0x62] =
        .ofWords ["a", "\u0301b"] ∧
      Text.IsLineEnding ['\u2028'] ∧
      Text.words (.ofList (['a'] ++ ['\u2028'] ++ ['\u0301', 'b'])) =
        Text.words (.ofList ['a']) ++ Text.words (.ofList ['\u0301', 'b']) := by
  have hending : Text.IsLineEnding ['\u2028'] := .inr ⟨'\u2028', by decide, rfl⟩
  obtain ⟨hread, -, -, hcut⟩ := lines_lose_no_word
  refine ⟨?_, hending, hcut _ _ _ hending⟩
  rw [hread]
  decide +kernel

end Reader

end BooleanRetrieval
