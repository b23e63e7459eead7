import DocTag.Tag.Rule
import Mathlib.Data.List.TakeWhile
/-!
What the readers of a comment find, told by the text ahead of them alone.

A reader never looks at what the cursor has passed.  Each one is given here as
a function from the text ahead to what is read and the text left, and the
cursor's reader is shown to agree with it.  A reader looks no further than the
character that stops it: text behind a place where something is left changes
nothing in front of it.
-/

namespace DocTag

namespace Text

def word (text : Text) : Text :=
  text.takeWhile fun character => !isWordSeparator character

def behindWord (text : Text) : Text :=
  text.dropWhile fun character => !isWordSeparator character

def skipBlanks (text : Text) : Text := text.dropWhile isBlank

/-- No word runs on into a text that is empty or starts with a separator. -/
def StopsWord (text : Text) : Prop :=
  ∀ character ∈ text.head?, isWordSeparator character = true

theorem word_append_behindWord (text : Text) :
    text.word ++ text.behindWord = text :=
  List.takeWhile_append_dropWhile

theorem behindWord_suffix (text : Text) : text.behindWord <:+ text :=
  List.dropWhile_suffix _

theorem skipBlanks_suffix (text : Text) : text.skipBlanks <:+ text :=
  List.dropWhile_suffix _

theorem isWordSeparator_of_mem_word {text : Text} {character : Char}
    (member : character ∈ text.word) : isWordSeparator character = false := by
  simpa using List.mem_takeWhile_imp member

theorem behindWord_of_word_eq_nil {text : Text} (empty : text.word = []) :
    text.behindWord = text := by
  have whole := text.word_append_behindWord
  rw [empty, List.nil_append] at whole
  exact whole

/-- A run that stops inside a text, or in front of the text behind it, is the
same run when that text follows. -/
theorem run_append {holds : Char → Bool} (text tail : Text)
    (stops : text.dropWhile holds ≠ [] ∨
      ∀ character ∈ tail.head?, holds character = false) :
    (text ++ tail).takeWhile holds = text.takeWhile holds ∧
      (text ++ tail).dropWhile holds = text.dropWhile holds ++ tail := by
  have behind : (text ++ tail).dropWhile holds =
      text.dropWhile holds ++ tail := by
    rw [List.dropWhile_append]
    split
    · next atEnd =>
        rw [List.isEmpty_iff] at atEnd
        rcases stops with inside | stopped
        · exact absurd atEnd inside
        · rw [atEnd, List.nil_append]
          cases tail with
          | nil => rfl
          | cons character rest =>
              rw [List.dropWhile_cons_of_neg]
              simpa using stopped character rfl
    · rfl
  refine ⟨?_, behind⟩
  have whole := List.takeWhile_append_dropWhile (p := holds) (l := text ++ tail)
  rw [behind, ← List.append_assoc] at whole
  have front := List.append_cancel_right whole
  exact List.append_cancel_right
    (front.trans List.takeWhile_append_dropWhile.symm)

theorem word_append (text tail : Text)
    (stops : text.behindWord ≠ [] ∨ tail.StopsWord) :
    (text ++ tail).word = text.word ∧
      (text ++ tail).behindWord = text.behindWord ++ tail := by
  apply run_append text tail
  refine stops.imp_right ?_
  intro stopped character first
  rw [stopped character first, Bool.not_true]

theorem skipBlanks_append {text : Text} (tail : Text)
    (stops : text.skipBlanks ≠ []) :
    (text ++ tail).skipBlanks = text.skipBlanks ++ tail :=
  (run_append text tail (.inl stops)).2

theorem isBlank_eq_false_of_skipBlanks {text rest : Text} {first : Char}
    (ahead : text.skipBlanks = first :: rest) : isBlank first = false := by
  have stopped := List.head?_dropWhile_not isBlank text
  rw [show text.dropWhile isBlank = first :: rest from ahead] at stopped
  exact stopped

theorem eq_bracket_of_isWordSeparator {character : Char}
    (separates : isWordSeparator character = true)
    (visible : isBlank character = false) : character = '[' := by
  have known : character = '\t' ∨ character = '\n' ∨ character = '\r' ∨
      character = ' ' ∨ character = '[' := by
    simpa [isWordSeparator, wordSeparators] using separates
  rcases known with rfl | rfl | rfl | rfl | rfl
  · cases visible
  · cases visible
  · cases visible
  · cases visible
  · rfl

theorem word_eq_nil_of_isWordSeparator {first : Char} (rest : Text)
    (separates : isWordSeparator first = true) :
    word (first :: rest) = [] := by
  unfold word
  rw [List.takeWhile_cons_of_neg (by simp [separates])]

theorem word_ne_nil_of_isWordSeparator {first : Char} (rest : Text)
    (joins : isWordSeparator first = false) :
    word (first :: rest) ≠ [] := by
  unfold word
  rw [List.takeWhile_cons_of_pos (by simp [joins])]
  exact List.cons_ne_nil _ _

def readAttributes : Text → Except AttributeFault (Text × Text)
  | '[' :: inside =>
      match inside.dropWhile (· != ']') with
      | [] => .error .closingMissing
      | _ :: rest => .ok (inside.takeWhile (· != ']'), rest)
  | _ => .error .openingMissing

private theorem dropWhile_ne_eq_nil_iff (text : Text) (stop : Char) :
    text.dropWhile (· != stop) = [] ↔ stop ∉ text := by
  rw [List.dropWhile_eq_nil_iff]
  constructor
  · intro passes member
    have passed := passes stop member
    rw [bne_self_eq_false] at passed
    cases passed
  · intro absent character member
    rw [bne_iff_ne]
    rintro rfl
    exact absent member

theorem readAttributes_eq (text : Text) :
    text.readAttributes =
      if text.head? ≠ some '[' then .error .openingMissing
      else if ']' ∉ text then .error .closingMissing
      else .ok (text.tail.takeWhile (· != ']'),
        (text.dropWhile (· != ']')).tail) := by
  match text with
  | [] => rfl
  | character :: inside =>
      by_cases opening : character = '['
      · subst opening
        have unclosed :
            inside.dropWhile (· != ']') = [] ↔ ']' ∉ '[' :: inside := by
          rw [dropWhile_ne_eq_nil_iff]
          simp
        rw [if_neg (by simp), readAttributes]
        split
        · next empty => rw [if_pos (unclosed.mp empty)]
        · next bracket rest stopped =>
            have closed : ¬ ']' ∉ '[' :: inside := by
              rw [← unclosed, stopped]
              exact List.cons_ne_nil bracket rest
            rw [if_neg closed, List.dropWhile_cons_of_pos (by decide), stopped]
            rfl
      · rw [if_pos (by simpa using opening)]
        simp [readAttributes, opening]

def readParameter (text : Text) : Except AttributeFault (Argument × Text) :=
  match text.word with
  | [] =>
      text.readAttributes.map fun (attributes, closed) =>
        (.annotated attributes closed.skipBlanks.word,
          closed.skipBlanks.behindWord)
  | word => .ok (.word word, text.behindWord)

theorem readParameter_of_word_eq_nil {text : Text} (noWord : text.word = []) :
    text.readParameter =
      text.readAttributes.map fun (attributes, closed) =>
        (.annotated attributes closed.skipBlanks.word,
          closed.skipBlanks.behindWord) := by
  rw [readParameter, noWord]

theorem readParameter_of_word_ne_nil {text : Text} (named : text.word ≠ []) :
    text.readParameter = .ok (.word text.word, text.behindWord) := by
  unfold readParameter
  split
  · next noWord => exact absurd noWord named
  · rfl

theorem readParameter_eq_ok {text rest : Text} {argument : Argument}
    (read : text.readParameter = .ok (argument, rest)) :
    (text.word ≠ [] ∧ argument = .word text.word ∧ rest = text.behindWord) ∨
      ∃ attributes closed : Text, text.word = [] ∧
        text.readAttributes = .ok (attributes, closed) ∧
        argument = .annotated attributes closed.skipBlanks.word ∧
        rest = closed.skipBlanks.behindWord := by
  by_cases noWord : text.word = []
  · rw [readParameter_of_word_eq_nil noWord] at read
    cases listed : text.readAttributes with
    | error fault => rw [listed] at read; cases read
    | ok reading =>
        obtain ⟨attributes, closed⟩ := reading
        rw [listed] at read
        cases read
        exact .inr ⟨attributes, closed, noWord, rfl, rfl, rfl⟩
  · rw [readParameter_of_word_ne_nil noWord] at read
    cases read
    exact .inl ⟨noWord, rfl, rfl⟩

end Text

def Rule.read (text : Text) : Rule → Except AttributeFault (Argument × Text)
  | .parameter => text.readParameter
  | .returnValue | .span _ | .reference | .related =>
      .ok (.word text.word, text.behindWord)
  | .returned | .lead _ | .silent | .verbatim => .ok (.absent, text)

namespace Cursor

/-- A reading without the past of its cursor. -/
def view {value : Type} (reading : Except AttributeFault value × Cursor) :
    Except AttributeFault (value × Text) :=
  reading.1.map fun read => (read, reading.2.ahead)

theorem eq_of_view_eq_ok {value : Type}
    {reading : Except AttributeFault value × Cursor} {read : value}
    {rest : Text} (seen : view reading = .ok (read, rest)) :
    ∃ after : Cursor, reading = (.ok read, after) ∧ after.ahead = rest := by
  obtain ⟨outcome, after⟩ := reading
  cases outcome with
  | error fault => cases seen
  | ok found => cases seen; exact ⟨after, rfl, rfl⟩

theorem eq_of_view_eq_error {value : Type}
    {reading : Except AttributeFault value × Cursor} {fault : AttributeFault}
    (seen : view reading = .error fault) :
    ∃ stopped : Cursor, reading = (.error fault, stopped) := by
  obtain ⟨outcome, stopped⟩ := reading
  cases outcome with
  | error met => cases seen; exact ⟨stopped, rfl⟩
  | ok found => cases seen

theorem ahead_forward_one {cursor : Cursor} {character : Char}
    {behind : Text} (ahead : cursor.ahead = character :: behind) :
    (cursor.forward 1).ahead = behind := by
  rw [ahead_forward, ahead]
  rfl

@[simp] theorem ahead_takeWhile (cursor : Cursor) (holds : Char → Bool) :
    (cursor.takeWhile holds).2.ahead = cursor.ahead.dropWhile holds := by
  have run : (cursor.ahead.takeWhile holds ++
      cursor.ahead.dropWhile holds).drop
        (cursor.ahead.takeWhile holds).length =
      cursor.ahead.dropWhile holds := List.drop_left
  rw [List.takeWhile_append_dropWhile] at run
  exact run

@[simp] theorem text_readWord (cursor : Cursor) :
    cursor.readWord.1 = cursor.ahead.word := rfl

@[simp] theorem ahead_readWord (cursor : Cursor) :
    cursor.readWord.2.ahead = cursor.ahead.behindWord :=
  ahead_takeWhile cursor _

@[simp] theorem ahead_skipBlanks (cursor : Cursor) :
    cursor.skipBlanks.ahead = cursor.ahead.skipBlanks :=
  ahead_takeWhile cursor _

theorem view_readAttributes (cursor : Cursor) :
    view cursor.readAttributes = cursor.ahead.readAttributes := by
  obtain ⟨passed, ahead⟩ := cursor
  cases ahead with
  | nil => rfl
  | cons character inside =>
      by_cases opening : character = '['
      · subst opening
        have closing := ahead_takeWhile
          ((Cursor.mk passed ('[' :: inside)).forward 1) (· != ']')
        simp only [ahead_forward, List.drop_succ_cons, List.drop_zero]
          at closing
        simp only [readAttributes, advance, peek?, List.head?_cons, closing,
          Text.readAttributes]
        cases stopped : inside.dropWhile (· != ']') with
        | nil => rfl
        | cons bracket rest =>
            simp only [List.head?_cons, view, Except.map, ahead_forward,
              closing, stopped, List.drop_succ_cons, List.drop_zero]
            rfl
      · simp [readAttributes, advance, peek?, Text.readAttributes, opening,
          view, Except.map]

theorem view_readParameter (cursor : Cursor) :
    view cursor.readParameter = cursor.ahead.readParameter := by
  have start := ahead_readWord cursor
  have found := text_readWord cursor
  unfold readParameter Text.readParameter
  cases named : cursor.readWord with
  | mk word after =>
      rw [named] at start found
      subst found
      cases noWord : cursor.ahead.word with
      | nil =>
          rw [Text.behindWord_of_word_eq_nil noWord] at start
          have list := view_readAttributes after
          rw [show after.ahead = cursor.ahead from start] at list
          cases listed : cursor.ahead.readAttributes with
          | error fault =>
              rw [listed] at list
              obtain ⟨stopped, hStopped⟩ := eq_of_view_eq_error list
              simp only [hStopped]
              rfl
          | ok reading =>
              rw [listed] at list
              obtain ⟨closed, hClosed, rest⟩ := eq_of_view_eq_ok list
              simp only [hClosed, view, Except.map, ahead_readWord,
                text_readWord, ahead_skipBlanks, rest]
      | cons character run =>
          simp only [view, Except.map]
          rw [show after.ahead = cursor.ahead.behindWord from start]

theorem view_readArgument (cursor : Cursor) (rule : Rule) :
    view (cursor.readArgument rule) = rule.read cursor.ahead := by
  cases rule with
  | parameter => exact view_readParameter cursor
  | returnValue | span | reference | related =>
      simp only [readArgument, Rule.read, view, Except.map, text_readWord,
        ahead_readWord]
  | returned | lead | silent | verbatim => rfl

end Cursor

theorem Text.readAttributes_append {text attributes rest : Text}
    (tail : Text) (read : text.readAttributes = .ok (attributes, rest)) :
    (text ++ tail).readAttributes = .ok (attributes, rest ++ tail) := by
  unfold readAttributes at read
  split at read
  · next inside =>
      split at read
      · cases read
      · next bracket closed stopped =>
          cases read
          have stops : inside.dropWhile (· != ']') ≠ [] := by
            rw [stopped]
            exact List.cons_ne_nil bracket rest
          obtain ⟨taken, left⟩ := run_append inside tail (.inl stops)
          rw [stopped] at left
          simp only [readAttributes, List.cons_append, left, taken]
  · cases read

theorem Text.readAttributes_suffix {text attributes rest : Text}
    (read : text.readAttributes = .ok (attributes, rest)) :
    rest <:+ text := by
  unfold readAttributes at read
  split at read
  · next inside =>
      split at read
      · cases read
      · next bracket closed stopped =>
          cases read
          have closing : bracket :: rest <:+ inside := by
            rw [← stopped]
            exact List.dropWhile_suffix _
          exact (List.suffix_cons bracket rest).trans
            (closing.trans (List.suffix_cons '[' inside))
  · cases read

theorem Text.readParameter_append {text rest tail : Text}
    {argument : Argument} (read : text.readParameter = .ok (argument, rest))
    (stops : rest ≠ [] ∨ argument.text ≠ [] ∧ tail.StopsWord) :
    (text ++ tail).readParameter = .ok (argument, rest ++ tail) := by
  by_cases noWord : text.word = []
  · rw [readParameter_of_word_eq_nil noWord] at read
    cases listed : text.readAttributes with
    | error fault => rw [listed] at read; cases read
    | ok reading =>
        obtain ⟨attributes, closed⟩ := reading
        rw [listed] at read
        cases read
        have starts : text.behindWord ≠ [] := by
          rw [behindWord_of_word_eq_nil noWord]
          rintro rfl
          cases listed
        have noWordYet : (text ++ tail).word = [] :=
          (word_append text tail (.inl starts)).1.trans noWord
        have named : closed.skipBlanks ≠ [] := by
          intro nothing
          rw [nothing] at stops
          rcases stops with left | ⟨word, -⟩
          · exact left rfl
          · exact word rfl
        obtain ⟨word, behind⟩ :=
          word_append closed.skipBlanks tail (stops.imp_right And.right)
        rw [readParameter_of_word_eq_nil noWordYet,
          readAttributes_append tail listed]
        simp only [Except.map, skipBlanks_append tail named, word, behind]
  · rw [readParameter_of_word_ne_nil noWord] at read
    cases read
    obtain ⟨word, behind⟩ := word_append text tail (stops.imp_right And.right)
    rw [readParameter_of_word_ne_nil (word ▸ noWord), word, behind]

theorem Text.readParameter_suffix {text rest : Text}
    {argument : Argument} (read : text.readParameter = .ok (argument, rest)) :
    rest <:+ text := by
  unfold readParameter at read
  split at read
  · cases listed : text.readAttributes with
    | error fault => rw [listed] at read; cases read
    | ok reading =>
        obtain ⟨attributes, closed⟩ := reading
        rw [listed] at read
        cases read
        exact (closed.skipBlanks.behindWord_suffix).trans
          (closed.skipBlanks_suffix.trans (readAttributes_suffix listed))
  · cases read
    exact text.behindWord_suffix

/-- What a rule reads does not change with the text behind it, when the rule
leaves some text, or reads last a word that cannot run on. -/
theorem Rule.read_append {rule : Rule} {text rest tail : Text}
    {argument : Argument} (read : rule.read text = .ok (argument, rest))
    (stops : rest ≠ [] ∨ argument.text ≠ [] ∧ tail.StopsWord) :
    rule.read (text ++ tail) = .ok (argument, rest ++ tail) := by
  cases rule with
  | parameter => exact Text.readParameter_append read stops
  | returnValue | span | reference | related =>
      cases read
      obtain ⟨word, behind⟩ :=
        Text.word_append text tail (stops.imp_right And.right)
      simp only [Rule.read, word, behind]
  | returned | lead | silent | verbatim =>
      cases read
      rfl

theorem Rule.read_suffix {rule : Rule} {text rest : Text}
    {argument : Argument} (read : rule.read text = .ok (argument, rest)) :
    rest <:+ text := by
  cases rule with
  | parameter => exact Text.readParameter_suffix read
  | returnValue | span | reference | related =>
      cases read
      exact text.behindWord_suffix
  | returned | lead | silent | verbatim =>
      cases read
      exact List.suffix_refl text

end DocTag
