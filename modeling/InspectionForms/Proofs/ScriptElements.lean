import InspectionForms.CommandLine.Run
import InspectionForms.Proofs.EditLayouts
import InspectionForms.Proofs.ListTexts

namespace InspectionForms

/-- A row is a whole number below `2 ^ 64` that is written as one. -/
inductive MemberType.Holds : MemberType → Json → Prop
  | text (value : String) : Holds text (.string value)
  | row {n : Nat} (inRange : n < 0x10000000000000000) : Holds row (.ofNat n)
  | anything (value : Json) : Holds anything value

namespace EditKind

theorem map_fst_members (kind : EditKind) : kind.members.map Prod.fst = kind.memberNames := by cases kind <;> rfl

theorem ofName?_eq_some_iff {kind : EditKind} {name : String} : ofName? name = some kind ↔ name = kind.name := by
  constructor
  · intro found
    have same : (kind.name == name) = true := List.find?_some (p := fun kind => EditKind.name kind == name) found
    exact (beq_iff_eq.mp same).symm
  · rintro rfl
    exact ofName?_name kind

theorem name_injective {kind other : EditKind} (h : Json.string kind.name = .string other.name) : kind = other := by
  have same := ofName?_name other
  rw [← Json.string.inj h, ofName?_name] at same
  exact Option.some.inj same

end EditKind

/-- A member is absent, comes repeatedly, or is not what it has to be. -/
inductive Misheld (members : List (String × Json)) (name : String) (right : Json → Prop) : Prop
  | absent (h : name ∉ members.map Prod.fst)
  | repeated (h : 1 < (members.map Prod.fst).count name)
  | wrong {value : Json} (member : (name, value) ∈ members) (h : ¬ right value)

/-- Why a value is no edit. -/
inductive Json.IsNoEdit : Json → Prop
  | scalar {json : Json} (noObject : ∀ members, json ≠ .object members) (noList : ∀ items, json ≠ .array items) :
    IsNoEdit json
  | tag {members : List (String × Json)}
    (h : Misheld members "op" fun value => ∃ kind : EditKind, value = .string kind.name) : IsNoEdit (.object members)
  | member {members : List (String × Json)} {kind : EditKind} {name : String} {type : MemberType}
    (tag : ("op", .string kind.name) ∈ members) (known : (name, type) ∈ kind.members)
    (h : Misheld members name type.Holds) : IsNoEdit (.object members)
  | listTag {items : List Json} (h : ∀ kind : EditKind, items.head? ≠ some (.string kind.name)) :
    IsNoEdit (.array items)
  | listLength {items : List Json} {kind : EditKind} (tag : items.head? = some (.string kind.name))
    (h : items.length ≠ 1 + kind.members.length) : IsNoEdit (.array items)
  | listEntry {items : List Json} {kind : EditKind} {i : Nat} {name : String} {type : MemberType} {part : Json}
    (tag : items.head? = some (.string kind.name)) (known : kind.members[i]? = some (name, type))
    (entry : items[i + 1]? = some part) (h : ¬ type.Holds part) : IsNoEdit (.array items)

theorem uniqueMember?_eq_some_iff {members : List (String × Json)} {name : String} {value : Json} :
    uniqueMember? members name = some value ↔ members.filter (fun m => m.1 == name) = [(name, value)] := by
  unfold uniqueMember?
  constructor
  · intro h
    split at h
    · next key only found =>
      obtain rfl := Option.some.inj h
      have here : (key, only) ∈ members.filter fun m => m.1 == name := by simp [found]
      obtain rfl : key = name := beq_iff_eq.mp (List.mem_filter.mp here).2
      exact found
    · cases h
  · intro found
    rw [found]

/-- A member is misheld exactly if there is no one right value of it. -/
theorem misheld_iff {members : List (String × Json)} {name : String} {right : Json → Prop} :
    Misheld members name right ↔ ¬ ∃ value, uniqueMember? members name = some value ∧ right value := by
  have count : (members.map Prod.fst).count name = (members.filter fun m => m.1 == name).length := by
    rw [List.count_eq_countP, List.countP_map, List.countP_eq_length_filter]
    rfl
  constructor
  · rintro misheld ⟨value, unique, isRight⟩
    have single := uniqueMember?_eq_some_iff.mp unique
    cases misheld with
    | absent h =>
      rw [← List.count_eq_zero, count, single] at h
      cases h
    | repeated h =>
      rw [count, single] at h
      exact Nat.lt_irrefl 1 h
    | @wrong other member h =>
      have inFilter : (name, other) ∈ members.filter fun m => m.1 == name := List.mem_filter.mpr ⟨member, by simp⟩
      rw [single, List.mem_singleton, Prod.mk.injEq] at inFilter
      exact h (inFilter.2 ▸ isRight)
  · intro none
    match found : members.filter fun m => m.1 == name with
    | [] =>
      refine .absent ?_
      rw [← List.count_eq_zero, count, found]
      rfl
    | [(key, value)] =>
      have here : (key, value) ∈ members.filter fun m => m.1 == name := by simp [found]
      obtain ⟨member, same⟩ := List.mem_filter.mp here
      obtain rfl : key = name := beq_iff_eq.mp same
      exact .wrong member fun isRight => none ⟨value, uniqueMember?_eq_some_iff.mpr found, isRight⟩
    | first :: second :: rest =>
      refine .repeated ?_
      rw [count, found, List.length_cons, List.length_cons]
      omega

/-- Values are found for all entries of a list, each of its kind, exactly if there is one for each entry. -/
theorem exists_mapM_forall₂_iff {α β : Type} {f : α → Option β} {R : α → β → Prop} {xs : List α} :
    (∃ ys, xs.mapM f = some ys ∧ List.Forall₂ R xs ys) ↔ ∀ x ∈ xs, ∃ y, f x = some y ∧ R x y := by
  simp only [mapM_eq_some_iff_forall₂]
  induction xs with
  | nil => simp
  | cons x xs ih =>
    rw [List.forall_mem_cons, ← ih]
    constructor
    · rintro ⟨_, _ | ⟨found, others⟩, related⟩
      obtain _ | ⟨first, rest⟩ := related
      exact ⟨⟨_, found, first⟩, _, others, rest⟩
    · rintro ⟨⟨y, found, first⟩, ys, others, rest⟩
      exact ⟨y :: ys, .cons found others, .cons first rest⟩

theorem mapM_eq_none_iff {α β : Type} {f : α → Option β} {xs : List α} :
    xs.mapM f = none ↔ ∃ x ∈ xs, f x = none := by
  induction xs with
  | nil => simp
  | cons x xs ih =>
    rw [List.mapM_cons, List.exists_mem_cons_iff, ← ih]
    cases f x <;> cases xs.mapM f <;> simp

theorem MemberType.holds_row_of_toNat? {number : Number} {n : Nat} (h : number.toNat? = some n) :
    row.Holds (.number number) := by
  cases number with
  | double => cases h
  | integer value inRange =>
    obtain ⟨nonneg, -⟩ := Option.ite_none_right_eq_some.mp h
    obtain ⟨n, rfl⟩ := Int.eq_ofNat_of_zero_le nonneg
    have below : n < 0x10000000000000000 := by omega
    rw [← Json.ofNat_eq_number below]
    exact .row below

namespace Edit

/-- Parts are an edit exactly if each is what it has to be. -/
theorem ofParts?_eq_some_iff {kind : EditKind} {parts : List Json} :
    (∃ edit, ofParts? kind parts = some edit) ↔ List.Forall₂ (fun m part => m.2.Holds part) kind.members parts := by
  constructor
  · rintro ⟨edit, h⟩
    unfold ofParts? at h
    split at h
    · exact .cons (.text _) (.cons (.text _) (.cons (.anything _) .nil))
    · obtain ⟨row, whole, -⟩ := Option.map_eq_some_iff.mp h
      have isRow := MemberType.holds_row_of_toNat? whole
      exact .cons (.text _) (.cons (.text _) (.cons isRow (.cons (.text _) (.cons (.anything _) .nil))))
    · exact .cons (.text _) (.cons (.text _) (.cons (.text _) .nil))
    · cases h
  · intro holds
    cases kind with
    | field =>
      obtain _ | ⟨⟨sectionId⟩, _ | ⟨⟨fieldId⟩, _ | ⟨_, _ | _⟩⟩⟩ := holds
      exact ⟨_, rfl⟩
    | cell =>
      obtain _ | ⟨⟨sectionId⟩, _ | ⟨⟨subSectionId⟩, _ | ⟨_ | inRange | _, _ | ⟨⟨columnId⟩, _ | ⟨_, _ | _⟩⟩⟩⟩⟩ := holds
      rw [Json.ofNat_eq_number inRange]
      exact ⟨_, rfl⟩
    | attach =>
      obtain _ | ⟨⟨sectionId⟩, _ | ⟨⟨fieldId⟩, _ | ⟨⟨fileName⟩, _ | _⟩⟩⟩ := holds
      exact ⟨_, rfl⟩

theorem ofJson?_object_eq_some_iff {members : List (String × Json)} :
    (∃ edit, ofJson? (.object members) = some edit) ↔
      ∃ kind : EditKind, uniqueMember? members "op" = some (.string kind.name) ∧
        ∀ m ∈ kind.members, ∃ value, uniqueMember? members m.1 = some value ∧ m.2.Holds value := by
  have read (kind : EditKind) : (∃ edit, ((kind.memberNames.mapM (uniqueMember? members)).bind
      (ofParts? kind)) = some edit) ↔ ∀ m ∈ kind.members, ∃ value, uniqueMember? members m.1 = some value ∧
        m.2.Holds value := by
    have together :
        (∃ parts, kind.members.mapM (uniqueMember? members ∘ Prod.fst) = some parts ∧
          List.Forall₂ (fun m part => m.2.Holds part) kind.members parts) ↔
        ∀ m ∈ kind.members, ∃ value, uniqueMember? members m.1 = some value ∧ m.2.Holds value :=
      exists_mapM_forall₂_iff
    rw [← List.mapM_map, kind.map_fst_members] at together
    refine Iff.trans ?_ together
    constructor
    · rintro ⟨edit, h⟩
      obtain ⟨parts, found, h⟩ := Option.bind_eq_some_iff.mp h
      exact ⟨parts, found, ofParts?_eq_some_iff.mp ⟨edit, h⟩⟩
    · rintro ⟨parts, found, holds⟩
      obtain ⟨edit, h⟩ := ofParts?_eq_some_iff.mpr holds
      exact ⟨edit, Option.bind_eq_some_iff.mpr ⟨parts, found, h⟩⟩
  constructor
  · rintro ⟨edit, h⟩
    obtain ⟨tag, unique, h⟩ := Option.bind_eq_some_iff.mp h
    split at h
    · obtain ⟨kind, named, h⟩ := Option.bind_eq_some_iff.mp h
      obtain rfl := EditKind.ofName?_eq_some_iff.mp named
      rw [named, Option.bind_eq_bind, Option.bind_some] at h
      exact ⟨kind, unique, (read kind).mp ⟨edit, h⟩⟩
    · cases h
  · rintro ⟨kind, unique, others⟩
    obtain ⟨edit, h⟩ := (read kind).mpr others
    refine ⟨edit, ?_⟩
    simp only [ofJson?, unique, Option.bind_eq_bind, Option.bind_some, EditKind.ofName?_name]
    exact h

theorem ofJson?_array_eq_some_iff {items : List Json} :
    (∃ edit, ofJson? (.array items) = some edit) ↔
      ∃ (kind : EditKind) (parts : List Json), items = .string kind.name :: parts ∧
        List.Forall₂ (fun m part => m.2.Holds part) kind.members parts := by
  constructor
  · rintro ⟨edit, h⟩
    unfold ofJson? at h
    split at h
    · next list => cases list
    · next name parts list =>
      obtain ⟨kind, named, h⟩ := Option.bind_eq_some_iff.mp h
      obtain rfl := EditKind.ofName?_eq_some_iff.mp named
      rw [named, Option.bind_eq_bind, Option.bind_some] at h
      exact ⟨kind, parts, Json.array.inj list, ofParts?_eq_some_iff.mp ⟨edit, h⟩⟩
    · cases h
  · rintro ⟨kind, parts, rfl, holds⟩
    obtain ⟨edit, h⟩ := ofParts?_eq_some_iff.mpr holds
    refine ⟨edit, ?_⟩
    rw [ofJson?, EditKind.ofName?_name]
    exact h

/-- A value is rejected exactly for one of the reasons why it is no edit. -/
theorem ofJson?_eq_none_iff {json : Json} : ofJson? json = none ↔ json.IsNoEdit := by
  have rejects : ofJson? json = none ↔ ¬ ∃ edit, ofJson? json = some edit := by
    rw [Option.eq_none_iff_forall_ne_some, not_exists]
  cases json with
  | object members =>
    rw [rejects, ofJson?_object_eq_some_iff]
    constructor
    · intro rejected
      by_cases tag : Misheld members "op" fun value => ∃ kind : EditKind, value = .string kind.name
      · exact .tag tag
      rw [misheld_iff, not_not] at tag
      obtain ⟨_, unique, kind, rfl⟩ := tag
      obtain ⟨m, known, misheld⟩ : ∃ m ∈ kind.members, Misheld members m.1 m.2.Holds := by
        by_contra none
        refine rejected ⟨kind, unique, fun m known => ?_⟩
        by_contra missing
        exact none ⟨m, known, misheld_iff.mpr missing⟩
      refine .member ?_ known misheld
      have filtered := uniqueMember?_eq_some_iff.mp unique
      exact List.mem_of_mem_filter (filtered ▸ List.mem_singleton_self _)
    · rintro noEdit ⟨kind, unique, held⟩
      cases noEdit with
      | scalar noObject => exact noObject members rfl
      | tag misheld => exact misheld_iff.mp misheld ⟨_, unique, kind, rfl⟩
      | @member _ other _ _ tag known misheld =>
        obtain rfl : other = kind := by
          by_contra different
          have wrong : Misheld members "op" (· = .string kind.name) :=
            .wrong tag fun same => different (EditKind.name_injective same)
          exact misheld_iff.mp wrong ⟨_, unique, rfl⟩
        exact misheld_iff.mp misheld (held _ known)
  | array items =>
    rw [rejects, ofJson?_array_eq_some_iff]
    constructor
    · intro rejected
      by_cases tag : ∃ kind : EditKind, items.head? = some (.string kind.name)
      swap
      · exact .listTag (not_exists.mp tag)
      obtain ⟨kind, tag⟩ := tag
      by_cases length : items.length = 1 + kind.members.length
      swap
      · exact .listLength tag length
      obtain ⟨parts, rfl⟩ := List.head?_eq_some_iff.mp tag
      rw [List.length_cons] at length
      have wrong : ¬ List.Forall₂ (fun m part => m.2.Holds part) kind.members parts :=
        fun holds => rejected ⟨kind, parts, rfl, holds⟩
      simp only [List.forall₂_iff_get, not_and, not_forall] at wrong
      obtain ⟨i, inMembers, inParts, h⟩ := wrong (by omega)
      exact .listEntry tag (List.getElem?_eq_getElem inMembers) (List.getElem?_eq_getElem inParts) h
    · rintro noEdit ⟨kind, parts, rfl, holds⟩
      have ofTag {other : EditKind} (tag : (Json.string kind.name :: parts).head? = some (.string other.name)) :
          kind = other :=
        EditKind.name_injective (Option.some.inj tag)
      cases noEdit with
      | scalar _ noList => exact noList _ rfl
      | listTag h => exact h kind rfl
      | listLength tag h =>
        obtain rfl := ofTag tag
        rw [List.length_cons, ← holds.length_eq] at h
        omega
      | listEntry tag known entry h =>
        obtain rfl := ofTag tag
        obtain ⟨inMembers, isMember⟩ := List.getElem?_eq_some_iff.mp known
        obtain ⟨inParts, isPart⟩ := List.getElem?_eq_some_iff.mp entry
        have held := holds.get inMembers (Nat.lt_of_succ_lt_succ inParts)
        rw [List.getElem_cons_succ] at isPart
        rw [List.get_eq_getElem, List.get_eq_getElem, isMember, isPart] at held
        exact h held
  | _ => exact ⟨fun _ => .scalar (by simp) (by simp), fun _ => rfl⟩

variable {text : String} {texts : List String} {items : List Json}

theorem readScript?_of_items (shallow : ∀ item ∈ items, item.depth ≤ 126)
    (layout : Token.Layout (Json.array items).tokens text.toList) : readScript? text = items.mapM ofJson? := by
  have room : (Json.array items).depth ≤ Json.nestingLimit := Json.depth_array_le_iff.mpr shallow
  rw [readScript?, isBlankText_of_layout layout, if_neg Bool.false_ne_true, Json.ofText?_of_layout layout,
    if_pos room]

/-- A script that lists texts of values has the values as elements. -/
theorem readScript?_of_listsTexts (written : List.Forall₂ (fun item t => Json.WrittenIn 126 item t) items texts)
    (h : ListsTexts texts text) : readScript? text = items.mapM ofJson? := by
  obtain ⟨shallow, layouts⟩ := (List.forall₂_and_left items texts).mp
    (written.imp fun item t isText => ⟨isText.depth_le, isText.layout⟩)
  exact readScript?_of_items shallow (Json.layout_array_of_listsTexts layouts h)

theorem readScript?_singleton {item : Json} {t : String} (written : item.WrittenIn 126 t) :
    readScript? ("[" ++ t ++ "]") = (ofJson? item).map fun edit => [edit] := by
  rw [readScript?_of_listsTexts (.cons written .nil) (listsTexts_singleton t)]
  cases h : ofJson? item <;> simp [h]

/-- A script is read element by element. -/
theorem readScript?_eq_flatten (written : List.Forall₂ (fun item t => Json.WrittenIn 126 item t) items texts)
    (h : ListsTexts texts text) :
    readScript? text = (texts.mapM fun t => readScript? ("[" ++ t ++ "]")).map List.flatten := by
  rw [readScript?_of_listsTexts written h]
  clear h
  induction written with
  | nil => rfl
  | @cons item t items texts isText _ ih =>
    rw [List.mapM_cons, List.mapM_cons, readScript?_singleton isText, ih]
    cases ofJson? item <;> cases texts.mapM fun t => readScript? ("[" ++ t ++ "]") <;> rfl

theorem exists_items_of_texts {limit : Nat} (h : ∀ t ∈ texts, ∃ item, Json.WrittenIn limit item t) :
    ∃ items, List.Forall₂ (fun item t => Json.WrittenIn limit item t) items texts := by
  obtain ⟨items, -, written⟩ := (exists_mapM_forall₂_iff (f := Json.ofText? limit)).mpr fun t member =>
    (h t member).imp fun item written => ⟨Json.writtenIn_iff.mp written, written⟩
  exact ⟨items, List.Forall₂.flip written⟩

/-- A script that is read and not blank lists texts of values. -/
theorem exists_texts_of_readScript? {edits : List Edit} (h : readScript? text = some edits)
    (notBlank : isBlankText text = false) :
    ∃ texts, (∀ t ∈ texts, ∃ item, Json.WrittenIn 126 item t) ∧ ListsTexts texts text := by
  rw [readScript?, if_neg (by simp [notBlank])] at h
  split at h
  · next items read =>
    obtain ⟨layout, deep⟩ := Json.ofText?_eq_some_iff.mp read
    obtain ⟨texts, written, listed⟩ := Json.exists_listsTexts layout
    refine ⟨texts, fun t member => ?_, listed⟩
    obtain ⟨item, inItems, isText⟩ : ∃ item ∈ items, Token.Layout item.tokens t.toList := by
      obtain ⟨i, inTexts, rfl⟩ := List.getElem_of_mem member
      have inItems : i < items.length := written.length_eq ▸ inTexts
      exact ⟨_, List.getElem_mem inItems, written.get inItems inTexts⟩
    exact ⟨item, isText, Json.depth_array_le_iff.mp deep item inItems⟩
  · cases h

end Edit

/-- A session has come about from all edits of its script. -/
theorem readScript?_of_loadSession {read : FileReader} {schemaPath scriptPath text : String} {session : Session}
    (script : read scriptPath = .ok text) (h : loadSession read schemaPath (some scriptPath) = .ok session) :
    ∃ schema edits, loadSession read schemaPath none = .ok (.new schema) ∧ Edit.readScript? text = some edits ∧
      session = (Session.new schema).applyEdits edits := by
  simp only [loadSession, bind, Except.bind, readFile, script] at h ⊢
  cases schemaRead : read schemaPath with
  | error => simp [schemaRead, Except.mapError] at h
  | ok schemaText =>
    cases parsed : Schema.ofText schemaText with
    | error => simp [schemaRead, parsed, Except.mapError] at h
    | ok schema =>
      simp only [schemaRead, parsed, Except.mapError] at h ⊢
      split at h
      · cases h
      · next edits accepted => exact ⟨schema, edits, rfl, accepted, (Except.ok.inj h).symm⟩

namespace Edit

/-- A script is taken exactly if each of its elements is, and then as their edits one behind the other. An element is
rejected exactly for one of the reasons of `Json.IsNoEdit`. Whatever else is not blank is rejected, and a form is
filled by all edits of a script or not at all. -/
theorem readScript?_elementwise :
    (∀ (texts : List String) (text : String), (∀ t ∈ texts, ∃ value, Json.WrittenIn 126 value t) →
      ListsTexts texts text →
        (readScript? text = none ↔ ∃ t ∈ texts, readScript? ("[" ++ t ++ "]") = none) ∧
        ∀ parts, List.Forall₂ (fun t part => readScript? ("[" ++ t ++ "]") = some part) texts parts →
          readScript? text = some parts.flatten) ∧
    (∀ (t : String) (value : Json), value.WrittenIn 126 t →
      (readScript? ("[" ++ t ++ "]") = none ↔ value.IsNoEdit)) ∧
    (∀ text : String, isBlankText text = false →
      (¬ ∃ texts, (∀ t ∈ texts, ∃ value, Json.WrittenIn 126 value t) ∧ ListsTexts texts text) →
        readScript? text = none) ∧
    (∀ (read : FileReader) (schemaPath scriptPath text : String), read scriptPath = .ok text →
      (readScript? text = none → ∀ session, loadSession read schemaPath (some scriptPath) ≠ .ok session) ∧
      ∀ session, loadSession read schemaPath (some scriptPath) = .ok session →
        ∃ schema edits, loadSession read schemaPath none = .ok (.new schema) ∧ readScript? text = some edits ∧
          session = (Session.new schema).applyEdits edits) := by
  refine ⟨fun texts text areTexts listed => ?_, fun t value written => ?_, fun text notBlank noList => ?_,
    fun read schemaPath scriptPath text script => ⟨fun rejected session loaded => ?_, fun session loaded => ?_⟩⟩
  · obtain ⟨items, written⟩ := exists_items_of_texts areTexts
    have whole := readScript?_eq_flatten written listed
    constructor
    · rw [whole, Option.map_eq_none_iff, mapM_eq_none_iff]
    · intro parts read
      rw [whole, mapM_eq_some_iff_forall₂.mpr read, Option.map_some]
  · rw [readScript?_singleton written, Option.map_eq_none_iff, ofJson?_eq_none_iff]
  · rw [Option.eq_none_iff_forall_ne_some]
    exact fun edits read => noList (exists_texts_of_readScript? read notBlank)
  · obtain ⟨_, edits, _, accepted, _⟩ := readScript?_of_loadSession script loaded
    rw [rejected] at accepted
    cases accepted
  · exact readScript?_of_loadSession script loaded

/-- The first element is an edit, the second one has an unknown tag. -/
def deletingScript : String := " [[\"attach\",\"F\",\"photo\",\"a.jpg\"], \x7b\"op\":\"delete\"\x7d\n]"

def deletingTexts : List String :=
  ["[\"attach\",\"F\",\"photo\",\"a.jpg\"]", " \x7b\"op\":\"delete\"\x7d\n"]

def deletingValues : List Json :=
  [.array [.string "attach", .string "F", .string "photo", .string "a.jpg"], .object [("op", .string "delete")]]

/-- A directory of a form and of scripts. -/
def deletingFiles : FileReader := fun path => .ok (if path = "form" then "\x7b\x7d" else deletingScript)

theorem writtenIn_deletingTexts :
    List.Forall₂ (fun value t => Json.WrittenIn 126 value t) deletingValues deletingTexts :=
  .cons (Json.writtenIn_iff.mpr rfl) (.cons (Json.writtenIn_iff.mpr rfl) .nil)

theorem readScript?_elementwise_deleting :
    ListsTexts deletingTexts deletingScript ∧ readScript? deletingScript = none ∧
      (∀ session, loadSession deletingFiles "form" (some "script") ≠ .ok session) ∧
      readScript? "[[\"attach\",\"F\",\"photo\",\"a.jpg\"]]" = some [.attach "F" "photo" "a.jpg"] ∧
      readScript? "7" = none := by
  obtain ⟨lists, elements, others, sessions⟩ := readScript?_elementwise
  have listed : ListsTexts deletingTexts deletingScript := ⟨[' '], [], [], rfl, by simp [Scanner.isSpace]⟩
  obtain _ | ⟨attaches, _ | ⟨deletes, _ | _⟩⟩ := writtenIn_deletingTexts
  have areTexts : ∀ t ∈ deletingTexts, ∃ value, Json.WrittenIn 126 value t := by
    intro t member
    simp only [deletingTexts, List.mem_cons, List.not_mem_nil, or_false] at member
    rcases member with rfl | rfl
    · exact ⟨_, attaches⟩
    · exact ⟨_, deletes⟩
  have unknown : (Json.object [("op", .string "delete")]).IsNoEdit := by
    refine .tag (.wrong (List.mem_singleton_self _) ?_)
    rintro ⟨kind, same⟩
    exact absurd (Json.string.inj same) (by cases kind <;> decide)
  have rejected : readScript? deletingScript = none :=
    (lists _ _ areTexts listed).1.mpr ⟨_, by simp [deletingTexts], (elements _ _ deletes).mpr unknown⟩
  have single : ∀ t ∈ ["[\"attach\",\"F\",\"photo\",\"a.jpg\"]"], ∃ value, Json.WrittenIn 126 value t := by
    simpa using ⟨_, attaches⟩
  refine ⟨listed, rejected, (sessions deletingFiles "form" "script" _ rfl).1 rejected, ?_, others "7" rfl ?_⟩
  · exact (lists _ _ single (listsTexts_singleton _)).2 [[.attach "F" "photo" "a.jpg"]] (.cons rfl .nil)
  · rintro ⟨texts, _, before, inside, behind, spelled, _⟩
    have bracket : '[' ∈ "7".toList := by simp [spelled]
    exact absurd bracket (by decide)

end Edit

end InspectionForms
