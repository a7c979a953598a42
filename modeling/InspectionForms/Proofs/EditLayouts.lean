import InspectionForms.Proofs.ScriptValues
import InspectionForms.Proofs.TokenLayout

namespace InspectionForms

/-- How a value of an edit may be written: with the members of its objects in any order. It stands in two containers,
so that 125 levels are left for it. -/
structure Json.Writes (raw value : Json) : Prop where
  normal_eq : raw.normal = value
  depth_le : raw.depth ≤ 125

theorem Json.ofNat_eq_number {n : Nat} (h : n < 0x10000000000000000) :
    Json.ofNat n = .number (.integer n ⟨by omega, by omega⟩) := by
  rw [ofNat, ofInt, dif_pos (by omega)]

theorem EditKind.ofName?_name (kind : EditKind) : ofName? kind.name = some kind := by
  cases kind <;> decide

/-- The tag and the members of an edit have different names. -/
theorem EditKind.nodup_names (kind : EditKind) : ("op" :: kind.memberNames).Nodup := by
  cases kind <;> decide

/-- A member whose name comes once is found in every order, whatever unknown members stand around it. -/
theorem uniqueMember?_of_perm {members known unknown : List (String × Json)} {name : String} {value : Json}
    (order : members.Perm (known ++ unknown)) (distinct : (known.map Prod.fst).Nodup)
    (isKnown : (name, value) ∈ known) (others : ∀ m ∈ unknown, m.1 ∉ known.map Prod.fst) :
    uniqueMember? members name = some value := by
  obtain ⟨front, behind, rfl, ofFront, ofBehind⟩ := exists_append_of_nodup_map distinct isKnown
  have frontOther : front.filter (fun m => m.1 == name) = [] :=
    List.filter_eq_nil_iff.mpr fun m member same => ofFront m member (beq_iff_eq.mp same)
  have behindOther : behind.filter (fun m => m.1 == name) = [] :=
    List.filter_eq_nil_iff.mpr fun m member same => ofBehind m member (beq_iff_eq.mp same)
  have unknownOther : unknown.filter (fun m => m.1 == name) = [] := by
    refine List.filter_eq_nil_iff.mpr fun m member same => others m member ?_
    rw [beq_iff_eq.mp same]
    exact List.mem_map_of_mem (f := Prod.fst) isKnown
  have single : members.filter (fun m => m.1 == name) = [(name, value)] := by
    have filtered := order.filter fun m => m.1 == name
    rw [List.filter_append, List.filter_append, List.filter_cons_of_pos (by simp), frontOther, behindOther,
      unknownOther] at filtered
    exact List.perm_singleton.mp filtered
  rw [uniqueMember?, single]

/-- A layout of a list has an opening bracket, so that it is not blank. -/
theorem isBlankText_of_layout {items : List Json} {text : String}
    (h : Token.Layout (Json.array items).tokens text.toList) : isBlankText text = false := by
  obtain ⟨rest, begins⟩ : ∃ rest, (Json.array items).tokens = .openArray :: rest := by
    cases items <;> exact ⟨_, rfl⟩
  rw [begins] at h
  have bracket {cs : List Char} (layout : Token.Layout (.openArray :: rest) cs) : '[' ∈ cs := by
    cases layout with
    | next isGap written others =>
      cases written with
      | mark isMark =>
        unfold Token.ofPunctuation? at isMark
        split at isMark <;> simp_all
  exact List.all_eq_false.mpr ⟨'[', bracket h, by decide⟩

namespace Edit

def kind : Edit → EditKind
  | field .. => .field
  | cell .. => .cell
  | attach .. => .attach

/-- The parts of an edit as they are written, in the order of its list form. -/
inductive PartsWritten : Edit → List Json → Prop
  | field {sectionId fieldId : String} {value raw : Json} (written : raw.Writes value) :
    PartsWritten (.field sectionId fieldId value) [.string sectionId, .string fieldId, raw]
  | cell {sectionId subSectionId columnId : String} {row : Nat} {value raw : Json}
    (rowInRange : row < 0x10000000000000000) (written : raw.Writes value) :
    PartsWritten (.cell sectionId subSectionId row columnId value)
      [.string sectionId, .string subSectionId, .ofNat row, .string columnId, raw]
  | attach {sectionId fieldId fileName : String} :
    PartsWritten (.attach sectionId fieldId fileName) [.string sectionId, .string fieldId, .string fileName]

/-- How an edit may be written: as an object that holds the tag and the parts in any order, with other members between
them that the kind of the edit does not know, or as a list of the tag and the parts. -/
inductive WrittenAs (edit : Edit) : Json → Prop
  | object {parts : List Json} {members unknown : List (String × Json)} (partsWritten : edit.PartsWritten parts)
    (order : members.Perm ((("op", .string edit.kind.name) :: edit.kind.memberNames.zip parts) ++ unknown))
    (others : ∀ m ∈ unknown, m.1 ∉ "op" :: edit.kind.memberNames) (shallow : ∀ m ∈ unknown, m.2.depth ≤ 125) :
    WrittenAs edit (.object members)
  | list {parts : List Json} (partsWritten : edit.PartsWritten parts) :
    WrittenAs edit (.array (.string edit.kind.name :: parts))

variable {edit : Edit} {parts : List Json}

theorem PartsWritten.length_eq (h : edit.PartsWritten parts) : parts.length = edit.kind.memberNames.length := by
  cases h <;> simp [kind, EditKind.memberNames]

theorem PartsWritten.depth_le (h : edit.PartsWritten parts) {part : Json} (member : part ∈ parts) :
    part.depth ≤ 125 := by
  have text (value : String) : (Json.string value).depth ≤ 125 := Nat.zero_le _
  cases h with
  | field written =>
    simp only [List.mem_cons, List.not_mem_nil, or_false] at member
    rcases member with rfl | rfl | rfl
    · exact text _
    · exact text _
    · exact written.depth_le
  | cell rowInRange written =>
    rw [Json.ofNat_eq_number rowInRange] at member
    simp only [List.mem_cons, List.not_mem_nil, or_false] at member
    rcases member with rfl | rfl | rfl | rfl | rfl
    · exact text _
    · exact text _
    · exact Nat.zero_le _
    · exact text _
    · exact written.depth_le
  | attach =>
    simp only [List.mem_cons, List.not_mem_nil, or_false] at member
    rcases member with rfl | rfl | rfl <;> exact text _

theorem PartsWritten.ofParts? (h : edit.PartsWritten parts) : ofParts? edit.kind parts = some edit := by
  cases h with
  | field written => rw [kind, Edit.ofParts?, written.normal_eq]
  | cell rowInRange written =>
    rw [kind, Json.ofNat_eq_number rowInRange, Edit.ofParts?, written.normal_eq]
    simp [Number.toNat?]
  | attach => rfl

/-- The names of the tag and the parts, with which an object form is read whatever stands around them. -/
theorem PartsWritten.map_fst (h : edit.PartsWritten parts) :
    ((("op", Json.string edit.kind.name) :: edit.kind.memberNames.zip parts).map Prod.fst) =
      "op" :: edit.kind.memberNames := by
  rw [List.map_cons, List.map_fst_zip (Nat.le_of_eq h.length_eq.symm)]

theorem WrittenAs.ofJson? {json : Json} (h : edit.WrittenAs json) : ofJson? json = some edit := by
  cases h with
  | list partsWritten =>
    rw [Edit.ofJson?, EditKind.ofName?_name]
    exact partsWritten.ofParts?
  | @object parts members unknown partsWritten order others shallow =>
    -- Which names are known depends on the tag, which is itself looked up among all members.
    rw [← partsWritten.map_fst] at others
    have distinct := edit.kind.nodup_names
    rw [← partsWritten.map_fst] at distinct
    have tag : uniqueMember? members "op" = some (.string edit.kind.name) :=
      uniqueMember?_of_perm order distinct (List.mem_cons_self ..) others
    have values : edit.kind.memberNames.mapM (uniqueMember? members) = some parts := by
      refine mapM_eq_some_iff_forall₂.mpr (List.forall₂_iff_zip.mpr ⟨partsWritten.length_eq.symm, ?_⟩)
      exact fun member => uniqueMember?_of_perm order distinct (List.mem_cons_of_mem _ member) others
    simp [Edit.ofJson?, tag, EditKind.ofName?_name, values, partsWritten.ofParts?]

theorem WrittenAs.depth_le {json : Json} (h : edit.WrittenAs json) : json.depth ≤ 126 := by
  cases h with
  | list partsWritten =>
    refine Json.depth_array_le_iff.mpr fun item member => ?_
    rcases List.mem_cons.mp member with rfl | member
    · exact Nat.zero_le _
    · exact partsWritten.depth_le member
  | object partsWritten order others shallow =>
    refine Json.depth_object_le_iff.mpr fun m member => ?_
    rcases List.mem_append.mp (order.mem_iff.mp member) with known | unknown
    · rcases List.mem_cons.mp known with rfl | known
      · exact Nat.zero_le _
      · exact partsWritten.depth_le (List.of_mem_zip known).2
    · exact shallow m unknown

/-- A script is read as the edits that it writes, in every layout of the text and of each edit. -/
theorem readScript?_of_layout {edits : List Edit} {items : List Json} {text : String}
    (written : List.Forall₂ WrittenAs edits items)
    (layout : Token.Layout (Json.array items).tokens text.toList) : readScript? text = some edits := by
  obtain ⟨shallow, reads⟩ : (∀ item ∈ items, item.depth ≤ 126) ∧
      List.Forall₂ (fun item edit => ofJson? item = some edit) items edits :=
    (List.forall₂_and_left items edits).mp
      (written.flip.imp fun item edit itemWritten => ⟨itemWritten.depth_le, itemWritten.ofJson?⟩)
  have room : (Json.array items).depth ≤ Json.nestingLimit := Json.depth_array_le_iff.mpr shallow
  rw [readScript?, isBlankText_of_layout layout, if_neg Bool.false_ne_true, Json.ofText?_of_layout layout,
    if_pos room]
  exact mapM_eq_some_iff_forall₂.mpr reads

end Edit

/-- The first edit names its kind behind its value, has a member that tables have, twice, and names its section by a
pair of escaped units. The second one is a list. Both write integers at the ends of their range. -/
def lateTagScript : String :=
  " [\x7b\"value\":\x7b\"b\":-9223372036854775808,\"a\":[18446744073709551615]\x7d,\"row\":[]," ++
    "\"op\":\"field\",\"section\":\"\\uD83d\\uDe00\",\"row\":0,\"field\":\"f\"\x7d,\n\t" ++
    "[\"cell\",\"s\",\"t\",18446744073709551615,\"c\",null]]\r\n"

def lateTagMembers : List (String × Json) :=
  [("value", .object [("b", .ofInt (-0x8000000000000000)), ("a", .array [.ofNat 0xFFFFFFFFFFFFFFFF])]),
    ("row", .array []), ("op", .string "field"), ("section", .string "😀"), ("row", .ofNat 0), ("field", .string "f")]

def lateTagItems : List Json :=
  [.object lateTagMembers,
    .array [.string "cell", .string "s", .string "t", .ofNat 0xFFFFFFFFFFFFFFFF, .string "c", .null]]

def lateTagEdits : List Edit :=
  [.field "😀" "f" (.object [("a", .array [.ofNat 0xFFFFFFFFFFFFFFFF]), ("b", .ofInt (-0x8000000000000000))]),
    .cell "s" "t" 0xFFFFFFFFFFFFFFFF "c" .null]

theorem writtenAs_lateTagItems : List.Forall₂ Edit.WrittenAs lateTagEdits lateTagItems := by
  have places : [0, 1, 2, 3, 4, 5].Perm [2, 3, 5, 0, 1, 4] := by decide
  have order := places.map fun place => lateTagMembers.getD place default
  have unknown : ∀ m ∈ [("row", Json.array []), ("row", .ofNat 0)],
      m.1 ∉ "op" :: EditKind.field.memberNames ∧ m.2.depth ≤ 125 := by
    intro m member
    simp only [List.mem_cons, List.not_mem_nil, or_false] at member
    rcases member with rfl | rfl <;> decide
  refine .cons ?_ (.cons ?_ .nil)
  · exact .object (.field ⟨rfl, by decide⟩) order (fun m member => (unknown m member).1)
      fun m member => (unknown m member).2
  · exact .list (.cell (by decide) ⟨rfl, by decide⟩)

theorem layout_lateTagScript : Token.Layout (Json.array lateTagItems).tokens lateTagScript.toList := by
  have plain (tokens : List Token) (h : tokens.all fun token => !token.isDouble) :
      Token.Layout tokens (tokens.flatMap Token.spelling) := by
    refine Token.layout_spellings fun token member => ?_
    simpa using List.all_eq_true.mp h token member
  have high : UnitWritten 0xD83D ['D', '8', '3', 'd'] :=
    .intro (u := 13) (v := 8) (w := 3) (x := 13) (by decide) (by decide) (by decide) (by decide)
  have low : UnitWritten 0xDE00 ['D', 'e', '0', '0'] :=
    .intro (u := 13) (v := 14) (w := 0) (x := 0) (by decide) (by decide) (by decide) (by decide)
  have pair : List.Forall₂ CharWritten "😀".toList
      [['\\', 'u', 'D', '8', '3', 'd', '\\', 'u', 'D', 'e', '0', '0']] :=
    .cons (.pair high low (by decide) (by decide) (by decide)) .nil
  have space (gap : List Char) (h : gap.all Scanner.isSpace) : ∀ c ∈ gap, Scanner.isSpace c := List.all_eq_true.mp h
  -- The name of the section stands behind 27 tokens, the second edit behind 38.
  let tokens := (Json.array lateTagItems).tokens
  have front := (plain (tokens.take 27) (by decide)).gap (space [' '] (by decide))
  have middle := plain ((tokens.drop 28).take 10) (by decide)
  have behind := (plain (tokens.drop 38) (by decide)).gap (space ['\n', '\t'] (by decide))
  have ends := behind.append (.done (space ['\r', '\n'] (by decide)))
  convert front.append (.next (space [] (by decide)) (.string pair) (middle.append ends)) using 1
  · decide
  · refine Eq.trans (congrArg String.toList ?_) String.toList_ofList
    decide +kernel

theorem Edit.readScript?_of_layout_lateTag :
    List.Forall₂ WrittenAs lateTagEdits lateTagItems ∧
      Token.Layout (Json.array lateTagItems).tokens lateTagScript.toList ∧
      readScript? lateTagScript = some lateTagEdits :=
  ⟨writtenAs_lateTagItems, layout_lateTagScript,
    readScript?_of_layout writtenAs_lateTagItems layout_lateTagScript⟩

end InspectionForms
