/-!
# White space collapse

XML white space is the space, the tab, the line feed and the carriage return, and no other
character. Collapsing a text keeps its words, the maximal runs of other characters, and separates
them by single spaces.
-/

namespace XPathValues.Text

def isSpace (c : Char) : Bool :=
  c == ' ' || c == '\t' || c == '\n' || c == '\r'

/-- Put a character in front of the words of the text that follows it. It starts a word of its own
when that text is empty or begins with white space. -/
def consWord (c : Char) (rest : List Char) (words : List (List Char)) : List (List Char) :=
  match rest, words with
  | d :: _, word :: others => if isSpace d then [c] :: words else (c :: word) :: others
  | _, _ => [c] :: words

def words : List Char → List (List Char)
  | [] => []
  | c :: rest => if isSpace c then words rest else consWord c rest (words rest)

/-- The words of a text, separated by single spaces. -/
def collapseChars (text : List Char) : List Char :=
  [' '].intercalate (words text)

def collapse (text : String) : String :=
  String.ofList (collapseChars text.toList)

@[simp] theorem words_nil : words [] = [] := rfl

theorem words_cons_of_isSpace {c : Char} (h : isSpace c = true) (rest : List Char) :
    words (c :: rest) = words rest := by
  simp [words, h]

@[simp] theorem toList_collapse (text : String) :
    (collapse text).toList = collapseChars text.toList := by
  simp [collapse]

theorem words_sound (text : List Char) :
    ∀ word ∈ words text, word ≠ [] ∧ ∀ c ∈ word, isSpace c = false := by
  induction text with
  | nil => simp
  | cons c rest ih =>
    by_cases hc : isSpace c = true
    · simpa [words, hc] using ih
    · have hc : isSpace c = false := by simpa using hc
      have single : ∀ word ∈ [c] :: words rest, word ≠ [] ∧ ∀ d ∈ word, isSpace d = false := by
        intro word hword
        rcases List.mem_cons.mp hword with rfl | hword
        · simp [hc]
        · exact ih word hword
      rw [words, if_neg (by simp [hc])]
      unfold consWord
      split
      · next d _ word others hwords =>
        split
        · exact single
        · intro w hw
          rcases List.mem_cons.mp hw with rfl | hw
          · refine ⟨by simp, fun e he => ?_⟩
            rcases List.mem_cons.mp he with rfl | he
            · exact hc
            · exact (ih word (by simp [hwords])).2 e he
          · exact ih w (by simp [hwords, hw])
      · exact single

end XPathValues.Text
