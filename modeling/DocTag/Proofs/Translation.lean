import DocTag.Proofs.Run
/-!
A translator that never looks at what it has written.

It is one recursion over the characters left, which carries the set of the
sections already opened and nothing else: no cursor, no fragments, no search
for headings.  Every conversion gives what this translator gives.
-/

namespace DocTag
namespace Translation

def reference (style : ReferenceStyle) (target : Text) : Text :=
  if "://".toList <:+: target then
    "[".toList ++ target ++ "](".toList ++ target ++ ")".toList
  else
    match style with
    | .code => "`".toList ++ target ++ "`".toList
    | .intraDoc => "[`".toList ++ target ++ "`]".toList

def bullet (text : Text) : Except AttributeFault (Text × Text) :=
  if text.word ≠ [] then
    .ok ("* `".toList ++ text.word ++ "` -".toList, text.behindWord)
  else if text.head? ≠ some '[' then .error .openingMissing
  else if ']' ∉ text then .error .closingMissing
  else
    let attributes := text.tail.takeWhile (· != ']')
    let named := Text.skipBlanks (text.dropWhile (· != ']')).tail
    .ok ("* `".toList ++ named.word ++ "` \\[".toList ++ attributes ++
      "\\] -".toList, named.behindWord)

/-- The markup that a tag and its argument become, and the text behind them. -/
abbrev Row := Text → Except AttributeFault (Text × Text)

def around (opening closing : String) : Row := fun text =>
  .ok (opening.toList ++ text.word ++ closing.toList, text.behindWord)

def linked (style : ReferenceStyle) (opening : String) : Row := fun text =>
  .ok (opening.toList ++ reference style text.word, text.behindWord)

def alone (markup : String) : Row := fun text => .ok (markup.toList, text)

def rows (style : ReferenceStyle) : List (List String × Row) :=
  [(["param"], bullet),
    (["retval"], around "* `" "`"),
    (["c", "p"], around "`" "`"),
    (["ref"], linked style ""),
    (["see", "sa"], linked style "> "),
    (["a", "e", "em"], around "_" "_"),
    (["b"], around "**" "**"),
    (["note"], alone "> **Note** "),
    (["since"], alone "> **Since** "),
    (["deprecated"], alone "> **Deprecated** "),
    (["remark", "remarks"], alone "> "),
    (["li"], alone "- "),
    (["par"], alone "# "),
    (["returns", "return", "result"], alone ""),
    (["\x7b", "\x7d", "brief", "short"], alone "")]

/-- A tag outside the table stays, with one blank behind it. -/
def replaced (style : ReferenceStyle) (introducer : Char) (name : Text) : Row :=
  match (rows style).find? fun row => (row.1.map String.toList).contains name with
  | some row => row.2
  | none => fun text => .ok (introducer :: name ++ " ".toList, text)

def heading (opened : Finset Section) (asked? : Option Section) : Text :=
  match asked? with
  | none => []
  | some asked =>
      if asked ∈ opened then [] else asked.heading ++ "\n\n".toList

private theorem hasPart_eq_true_iff (pattern text : Text) :
    Text.hasPart pattern text = true ↔ pattern <:+: text := by
  induction text with
  | nil => simp [Text.hasPart]
  | cons character rest ih =>
      rw [Text.hasPart, Bool.or_eq_true, ih, List.infix_cons_iff,
        List.isPrefixOf_iff_prefix]

private theorem reference_eq (style : ReferenceStyle) (target : Text) :
    reference style target = style.reference target := by
  unfold reference ReferenceStyle.reference
  by_cases scheme : "://".toList <:+: target
  · have found := (hasPart_eq_true_iff "://".toList target).mpr scheme
    exact (if_pos scheme).trans (if_pos found).symm
  · have absent := mt (hasPart_eq_true_iff "://".toList target).mp scheme
    exact (if_neg scheme).trans (if_neg absent).symm

private theorem bullet_eq (text : Text) :
    bullet text =
      text.readParameter.map fun (argument, rest) =>
        ("* `".toList ++ argument.text ++ "`".toList ++
          argument.annotation ++ " -".toList, rest) := by
  unfold bullet
  by_cases noWord : text.word = []
  · rw [if_neg (not_not_intro noWord),
      Text.readParameter_of_word_eq_nil noWord, Text.readAttributes_eq]
    split
    · rfl
    · split
      · rfl
      · simp [Except.map, Argument.text, Argument.annotation]
  · rw [if_pos noWord, Text.readParameter_of_word_ne_nil noWord]
    simp [Except.map, Argument.text, Argument.annotation]

private def ruled (style : ReferenceStyle) (introducer : Char) (name : Text) :
    Row := fun text =>
  ((Rule.ofName name).read text).map fun (argument, rest) =>
    (((Rule.ofName name).fragment? ⟨[introducer], name⟩ style argument).getD [],
      rest)

private theorem row_eq_ruled (style : ReferenceStyle) (introducer : Char) :
    ∀ row ∈ rows style, ∀ name ∈ row.1.map String.toList,
      row.2 = ruled style introducer name := by
  intro row member
  simp only [rows, List.mem_cons, List.not_mem_nil, or_false] at member
  rcases member with rfl | rfl | rfl | rfl | rfl | rfl | rfl | rfl | rfl |
    rfl | rfl | rfl | rfl | rfl | rfl
  all_goals
    intro name tagged
    simp only [List.map_cons, List.map_nil, List.mem_cons, List.not_mem_nil,
      or_false] at tagged
  · subst tagged
    funext text
    exact bullet_eq text
  · subst tagged
    rfl
  · rcases tagged with rfl | rfl <;> rfl
  · subst tagged
    funext text
    simp only [linked, reference_eq]
    rfl
  · rcases tagged with rfl | rfl <;>
      · funext text
        simp only [linked, reference_eq]
        rfl
  · rcases tagged with rfl | rfl | rfl <;> rfl
  · subst tagged
    rfl
  · subst tagged
    rfl
  · subst tagged
    rfl
  · subst tagged
    rfl
  · rcases tagged with rfl | rfl <;> rfl
  · subst tagged
    rfl
  · subst tagged
    rfl
  · rcases tagged with rfl | rfl | rfl <;> rfl
  · rcases tagged with rfl | rfl | rfl | rfl <;> rfl

private theorem ofName_eq_verbatim {style : ReferenceStyle} {name : Text}
    (absent : ∀ row ∈ rows style, name ∉ row.1.map String.toList) :
    Rule.ofName name = .verbatim := by
  have listed : ∀ entry ∈ Rule.table,
      ∃ names ∈ (rows style).map Prod.fst,
        entry.1 ∈ names.map String.toList := by
    cases style <;> decide
  unfold Rule.ofName
  cases found : Rule.ofName? name with
  | none => rfl
  | some rule =>
      obtain ⟨names, member, tagged⟩ :=
        listed (name, rule) (Rule.mem_table_of_ofName?_eq_some found)
      obtain ⟨row, isRow, rfl⟩ := List.mem_map.mp member
      exact absurd tagged (absent row isRow)

private theorem replaced_eq (style : ReferenceStyle) (introducer : Char)
    (name text : Text) :
    replaced style introducer name text =
      ((Rule.ofName name).read text).map fun (argument, rest) =>
        (((Rule.ofName name).fragment? ⟨[introducer], name⟩ style
          argument).getD [], rest) := by
  change _ = ruled style introducer name text
  unfold replaced
  cases found : (rows style).find? fun row =>
      (row.1.map String.toList).contains name with
  | some row =>
      have tagged := List.find?_some found
      rw [List.contains_iff_mem] at tagged
      exact congrFun (row_eq_ruled style introducer row
        (List.mem_of_find?_eq_some found) name tagged) text
  | none =>
      have absent : ∀ row ∈ rows style, name ∉ row.1.map String.toList := by
        intro row member tagged
        exact List.find?_eq_none.mp found row member
          (List.contains_iff_mem.mpr tagged)
      unfold ruled
      rw [ofName_eq_verbatim absent]
      simp [Rule.read, Rule.fragment?, Except.map]

private theorem length_le_of_replaced {style : ReferenceStyle}
    {introducer : Char} {name text markup rest : Text}
    (replacing : replaced style introducer name text = .ok (markup, rest)) :
    rest.length ≤ text.length := by
  rw [replaced_eq] at replacing
  cases read : (Rule.ofName name).read text with
  | error fault => rw [read] at replacing; cases replacing
  | ok reading =>
      rw [read] at replacing
      cases replacing
      exact (Rule.read_suffix read).length_le

/-- Translates the text left, where some sections are already open. -/
def translate (style : ReferenceStyle) (opened : Finset Section) :
    Text → Except AttributeFault Text
  | [] => .ok []
  | character :: behind =>
      if isIntroducer character then
        let name := Text.word behind
        match replacing :
            replaced style character name (Text.behindWord behind).skipBlanks with
        | .error fault => .error fault
        | .ok (markup, rest) =>
            let asked? := Section.ofTag? name
            have : rest.length < (character :: behind).length := by
              have left := length_le_of_replaced replacing
              have named := (Text.behindWord_suffix behind).length_le
              have blank := (Text.behindWord behind).skipBlanks_suffix.length_le
              rw [List.length_cons]
              omega
            (translate style (Section.openedWith opened asked?) rest).map
              fun translated => heading opened asked? ++ markup ++ translated
      else if character = '\n' then
        have : (Text.skipBlanks behind).length < (character :: behind).length :=
          Nat.lt_succ_of_le (Text.skipBlanks_suffix behind).length_le
        (translate style opened (Text.skipBlanks behind)).map (character :: ·)
      else (translate style opened behind).map (character :: ·)
termination_by text => text.length
decreasing_by
  · exact this
  · exact this
  · exact Nat.lt_succ_self behind.length

private theorem heading_eq (opened : Finset Section)
    (asked? : Option Section) :
    heading opened asked? = (Section.announced opened asked?).flatten := by
  cases asked? with
  | none => rfl
  | some asked =>
      by_cases isOpen : asked ∈ opened
      · simp [heading, Section.announced, isOpen]
      · simp [heading, Section.announced, isOpen, Output.headingSeparator]

private theorem translate_of_replaced_error {style : ReferenceStyle}
    {introducer : Char} {behind : Text} {fault : AttributeFault}
    (opened : Finset Section) (tagged : isIntroducer introducer = true)
    (replacing : replaced style introducer behind.word
      behind.behindWord.skipBlanks = .error fault) :
    translate style opened (introducer :: behind) = .error fault := by
  rw [translate, if_pos tagged]
  dsimp only
  split <;> simp_all

private theorem translate_of_replaced_ok {style : ReferenceStyle}
    {introducer : Char} {behind markup rest : Text}
    (opened : Finset Section) (tagged : isIntroducer introducer = true)
    (replacing : replaced style introducer behind.word
      behind.behindWord.skipBlanks = .ok (markup, rest)) :
    translate style opened (introducer :: behind) =
      (translate style (Section.openedWith opened (Section.ofTag? behind.word))
          rest).map fun translated =>
        heading opened (Section.ofTag? behind.word) ++ markup ++
          translated := by
  rw [translate, if_pos tagged]
  dsimp only
  split <;> simp_all

private theorem translate_of_next?_error {style : ReferenceStyle}
    {text : Text} {fault : AttributeFault} (opened : Finset Section)
    (next : Item.next? text = some (.error fault)) :
    translate style opened text = .error fault := by
  match text with
  | [] => cases next
  | character :: behind =>
      cases tagged : isIntroducer character with
      | true =>
          rw [Item.next?_tag behind tagged] at next
          apply translate_of_replaced_error opened tagged
          rw [replaced_eq]
          cases read : (Rule.ofName (Text.word behind)).read
              (Text.behindWord behind).skipBlanks with
          | ok reading => rw [read] at next; cases next
          | error lacking =>
              rw [read] at next
              cases next
              rfl
      | false =>
          rw [Item.next?_copied behind tagged] at next
          cases next

private theorem translate_of_next?_ok {style : ReferenceStyle}
    {text rest : Text} {item : Item} (opened : Finset Section)
    (next : Item.next? text = some (.ok (item, rest))) :
    translate style opened text =
      (translate style (Section.openedWith opened item.asked?) rest).map
        fun translated => (Section.announced opened item.asked?).flatten ++
          (item.fragment? style).getD [] ++ translated := by
  match text with
  | [] => cases next
  | character :: behind =>
      cases tagged : isIntroducer character with
      | true =>
          rw [Item.next?_tag behind tagged] at next
          have replacing := replaced_eq style character (Text.word behind)
            (Text.behindWord behind).skipBlanks
          cases read : (Rule.ofName (Text.word behind)).read
              (Text.behindWord behind).skipBlanks with
          | error fault => rw [read] at next; cases next
          | ok reading =>
              rw [read] at next replacing
              cases next
              rw [translate_of_replaced_ok opened tagged replacing,
                ← Rule.opens?_ofName, heading_eq]
              rfl
      | false =>
          rw [Item.next?_copied behind tagged] at next
          cases next
          rw [translate, if_neg (by simp [tagged])]
          split <;> rfl

/-- The translator scans the items of the text and writes them. -/
theorem translate_eq_map_scan (style : ReferenceStyle)
    (opened : Finset Section) (text : Text) :
    translate style opened text =
      (Item.scan text).map fun items =>
        (Item.written style opened items).flatten := by
  induction text using Item.scan.induct generalizing opened with
  | case1 text atEnd =>
      rw [Item.next?_eq_none_iff] at atEnd
      subst atEnd
      rw [translate, Item.scan_nil]
      rfl
  | case2 text fault next =>
      rw [translate_of_next?_error opened next, Item.scan_of_next?_error next]
      rfl
  | case3 text item rest next shorter ih =>
      rw [translate_of_next?_ok opened next, ih, Item.scan_of_next?_ok next]
      cases Item.scan rest with
      | error fault => rfl
      | ok items =>
          simp only [Except.map, Item.written, List.flatten_append]
          cases item.fragment? style <;> simp

def ofComment (style : ReferenceStyle) (comment : Text) :
    Except AttributeFault Text :=
  translate style ∅ comment.skipBlanks

theorem convert_eq_ofComment (style : ReferenceStyle) (comment : Text) :
    convert style comment = ofComment style comment := by
  rw [convert_eq_map_scan, ofComment, translate_eq_map_scan]

end Translation

/-- A conversion gives what the translator gives, and in every session of its
run a heading is found exactly when the tag of an earlier step opened its
section: no copied text, argument or attribute list is ever taken for one. -/
theorem convert_eq_translation (style : ReferenceStyle) (comment : Text) :
    convert style comment = Translation.ofComment style comment ∧
      ∀ (passed : List Session) (outcome : Except AttributeFault Unit)
        (session : Session),
        Session.Run style (Session.started comment) passed outcome session →
        ∀ opened : Section,
          session.output.hasHeading opened.heading = true ↔
            ∃ earlier ∈ passed, earlier.Opens opened := by
  refine ⟨Translation.convert_eq_ofComment style comment, ?_⟩
  intro passed outcome session run opened
  rw [Output.hasHeading_heading_iff]
  exact run.mem_sections_iff opened

/-- The title mark and the heading behind it are fragments of their own. -/
theorem convert_eq_translation_title :
    ∃ (passed : List Session) (session : Session),
      Session.Run .code (Session.started "@par @return".toList) passed (.ok ())
          session ∧
        (session.output.hasHeading Section.returns.heading = true ↔
          ∃ earlier ∈ passed, earlier.Opens .returns) :=
  ⟨_, _, .step (.step .start rfl) rfl,
    (convert_eq_translation .code "@par @return".toList).2 _ _ _
      (.step (.step .start rfl) rfl) .returns⟩

end DocTag
