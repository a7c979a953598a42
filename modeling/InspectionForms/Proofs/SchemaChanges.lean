import InspectionForms.Proofs.SchemaPlaces
import Mathlib.Data.List.Nodup

namespace InspectionForms

universe u

theorem getElem?_append_cons_of_ne {α : Type u} {before after : List α} {i : Nat} (other : i ≠ before.length)
    (x y : α) : (before ++ x :: after)[i]? = (before ++ y :: after)[i]? := by
  rcases Nat.lt_or_gt_of_ne other with less | more
  · rw [List.getElem?_append_left less, List.getElem?_append_left less]
  · obtain ⟨k, later⟩ : ∃ k, i - before.length = k + 1 := ⟨i - before.length - 1, by omega⟩
    rw [List.getElem?_append_right (by omega), List.getElem?_append_right (by omega), later]
    rfl

/-- An object with a list in which an element stands at a place. -/
def Json.holding (front : List (String × Json)) (name : String) (before : List Json) (element : Json)
    (after : List Json) (behind : List (String × Json)) : Json :=
  .object (front ++ (name, .array (before ++ element :: after)) :: behind)

section Holding

variable {front behind : List (String × Json)} {name : String} {before after : List Json}

theorem Json.memberItems_holding (first : name ∉ front.map Prod.fst) (element : Json) :
    (holding front name before element after behind).memberItems name = before ++ element :: after := by
  have found : (holding front name before element after behind).member? name =
      some (.array (before ++ element :: after)) := by
    rw [holding, member?, lookupEntry_append, lookupEntry_eq_none_iff.mpr first, lookupEntry_cons, if_pos rfl]
    rfl
  rw [memberItems, found]

theorem Json.member?_holding_of_ne {other : String} (differ : other ≠ name) (x y : Json) :
    (holding front name before x after behind).member? other =
      (holding front name before y after behind).member? other := by
  simp [holding, member?, lookupEntry_append, lookupEntry_cons, differ]

end Holding

/-- A value below a value of a kind is changed, at a place in lists that are looked for. -/
inductive ChangedAt (change : NodeKind → Json → Json → Prop) : NodeKind → SchemaPath → Json → Json → Prop
  | here {kind : NodeKind} {a b : Json} (h : change kind a b) : ChangedAt change kind [] a b
  | inside {kind item : NodeKind} {name : String} {front behind : List (String × Json)} {before after : List Json}
    {x y : Json} {place : SchemaPath} (first : name ∉ front.map Prod.fst)
    (known : (name, item) ∈ kind.lists (.holding front name before x after behind))
    (h : ChangedAt change item place x y) :
    ChangedAt change kind ((name, before.length) :: place) (.holding front name before x after behind)
      (.holding front name before y after behind)

/-- Parts are equal but for what stands at a place below them. Around the place, they say the same besides the parts in
them. -/
def Entry.AlikeBeside (path : SchemaPath) (a b : Entry) : Prop :=
  ∀ place, ¬ path <+: place →
    (a.at? place).map Entry.own = (b.at? place).map Entry.own ∧ (¬ place <+: path → a.at? place = b.at? place)

namespace NodeKind

/-- An object becomes one with the same members but for those that are not looked at. -/
def ChangedUnread (kind : NodeKind) (a b : Json) : Prop :=
  ∃ members others, a = .object members ∧ b = .object others ∧
    members.filter (fun m => kind.Reads a m.1) = others.filter fun m => kind.Reads a m.1

/-- One element of a list of texts becomes another one. -/
def ChangedText (before : List Json) (x y : Json) (after : List Json) (kind : NodeKind) (a b : Json) : Prop :=
  ∃ front name behind, kind.textList? a = some name ∧ name ∉ front.map Prod.fst ∧
    a = .holding front name before x after behind ∧ b = .holding front name before y after behind

variable {kind item : NodeKind}

theorem lists_holding {front behind : List (String × Json)} {name : String} {before after : List Json} {x : Json}
    (known : (name, item) ∈ kind.lists (.holding front name before x after behind)) (y : Json) :
    kind.lists (.holding front name before x after behind) =
      kind.lists (.holding front name before y after behind) := by
  refine lists_congr fun other plain => Json.member?_holding_of_ne ?_ x y
  rintro rfl
  exact not_mem_plainNames known plain

/-- What an element in a list is changes nothing of what is said beside the list. -/
theorem own_read_holding {front behind : List (String × Json)} {name : String} {before after : List Json} {x : Json}
    (known : (name, item) ∈ kind.lists (.holding front name before x after behind)) (y : Json) :
    (kind.read (.holding front name before x after behind)).own =
      (kind.read (.holding front name before y after behind)).own := by
  have noRow : kind ≠ row := by
    rintro rfl
    cases known
  refine own_read_congr noRow (fun other plain => Json.member?_holding_of_ne ?_ x y) fun other texts => ?_
  · rintro rfl
    exact not_mem_plainNames known plain
  · rw [lists_eq_nil texts] at known
    cases known

theorem item_eq {json : Json} {name : String} {other : NodeKind} (known : (name, item) ∈ kind.lists json)
    (member : (name, other) ∈ kind.lists json) : other = item :=
  (Prod.mk.inj (List.inj_on_of_nodup_map (kind.nodup_lists json) member known rfl)).2

theorem lookupEntry_lists {json : Json} {name : String} (known : (name, item) ∈ kind.lists json) :
    lookupEntry name (kind.lists json) = some item := by
  cases found : lookupEntry name (kind.lists json) with
  | none => exact absurd (List.mem_map_of_mem (f := Prod.fst) known) (lookupEntry_eq_none_iff.mp found)
  | some other => rw [item_eq known (mem_of_lookupEntry found)]

/-- Members that are not looked at change nothing. -/
theorem read_eq_of_changedUnread {a b : Json} (h : kind.ChangedUnread a b) : kind.read a = kind.read b := by
  obtain ⟨members, others, rfl, rfl, same⟩ := h
  by_cases isRow : kind = row
  · have all (entries : List (String × Json)) :
        (entries.filter fun m => kind.Reads (.object members) m.1) = entries :=
      List.filter_eq_self.mpr fun m _ => decide_eq_true (.inl isRow)
    rw [all, all] at same
    rw [same]
  refine read_congr isRow fun name reads => ?_
  have found := congrArg (lookupEntry name) same
  rwa [lookupEntry_filter (p := fun name => kind.Reads (.object members) name) (decide_eq_true reads),
    lookupEntry_filter (p := fun name => kind.Reads (.object members) name) (decide_eq_true reads)] at found

end NodeKind

namespace ChangedAt

variable {change : NodeKind → Json → Json → Prop} {kind : NodeKind} {path : SchemaPath} {a b : Json}

/-- The values at the changed place. -/
theorem element? (h : ChangedAt change kind path a b) :
    ∃ item x y, NodeKind.element? path kind a = some (item, x) ∧ NodeKind.element? path kind b = some (item, y) ∧
      change item x y := by
  induction h with
  | here h => exact ⟨_, _, _, rfl, rfl, h⟩
  | @inside kind item name front behind before after x y path first known _ ih =>
    obtain ⟨last, u, v, atX, atY, changed⟩ := ih
    refine ⟨last, u, v, ?_, ?_, changed⟩
    · rw [NodeKind.element?, NodeKind.lookupEntry_lists known, Json.memberItems_holding first]
      simpa using atX
    · rw [NodeKind.element?, ← NodeKind.lists_holding known y, NodeKind.lookupEntry_lists known,
        Json.memberItems_holding first]
      simpa using atY

/-- If a change below changes nothing of what is read there, it changes nothing at all. -/
theorem read_eq (h : ChangedAt change kind path a b)
    (same : ∀ item x y, change item x y → item.read x = item.read y) : kind.read a = kind.read b := by
  induction h with
  | here h => exact same _ _ _ h
  | @inside kind item name front behind before after x y path first known _ ih =>
    refine Entry.eq_of_own (NodeKind.own_read_holding known y) ?_
    rw [NodeKind.lists_read, NodeKind.lists_read, ← NodeKind.lists_holding known y]
    refine List.map_congr_left fun l member => ?_
    obtain ⟨other, itemKind⟩ := l
    by_cases here : other = name
    · subst here
      obtain rfl := NodeKind.item_eq known member
      simp only [Json.memberItems_holding first, List.map_append, List.map_cons, ih]
    · rw [Json.memberItems_congr (Json.member?_holding_of_ne here x y)]

/-- A change at a place changes no part beside it. -/
theorem alikeBeside_read (h : ChangedAt change kind path a b) : (kind.read a).AlikeBeside path (kind.read b) := by
  induction h with
  | here h => exact fun place beside => absurd List.nil_prefix beside
  | @inside kind item name front behind before after x y path first known _ ih =>
    intro place beside
    cases place with
    | nil =>
      exact ⟨congrArg some (NodeKind.own_read_holding known y), fun outside => absurd List.nil_prefix outside⟩
    | cons step place =>
      obtain ⟨other, i⟩ := step
      rw [NodeKind.at?_cons_read, NodeKind.at?_cons_read, ← NodeKind.lists_holding known y]
      by_cases list : other = name
      · subst list
        rw [NodeKind.lookupEntry_lists known, Json.memberItems_holding first, Json.memberItems_holding first]
        by_cases here : i = before.length
        · subst here
          rw [List.cons_prefix_cons] at beside
          have inner := ih place fun below => beside ⟨rfl, below⟩
          simpa [List.cons_prefix_cons] using inner
        · rw [Option.bind_some, Option.bind_some, getElem?_append_cons_of_ne here x y]
          exact ⟨rfl, fun _ => rfl⟩
      · rw [Json.memberItems_congr (Json.member?_holding_of_ne list x y)]
        exact ⟨rfl, fun _ => rfl⟩

/-- A change keeps an object if it does so where it is the object itself that is changed. -/
theorem isObject (h : ChangedAt change kind path a b)
    (start : path = [] → change kind a b → ∃ members, b = .object members) : ∃ members, b = .object members := by
  cases h with
  | here h => exact start rfl h
  | inside => exact ⟨_, rfl⟩

end ChangedAt

namespace Json

/-- A value that stands for a text, with the text. -/
inductive IsTextOf : Json → String → Prop
  | string (text : String) : IsTextOf (.string text) text
  | number (n : Number) : IsTextOf (.number n) (String.ofList n.text)

def isStringOrNumber : Json → Bool
  | .string _ | .number _ => true
  | _ => false

/-- The texts of a list are those of its strings and numbers, in their order. -/
theorem forall₂_isTextOf (items : List Json) :
    List.Forall₂ IsTextOf (items.filter isStringOrNumber) (items.filterMap scalarText?) := by
  induction items with
  | nil => exact .nil
  | cons item items ih =>
    cases item with
    | string text => exact .cons (.string text) ih
    | number n => exact .cons (.number n) ih
    | _ => exact ih

end Json

namespace NodeKind

/-- How a part stands for the element from which it is read, whatever the element is. -/
structure ReadsAs (kind : NodeKind) (element : Json) (entry : Entry) : Prop where
  names : entry.lists.map Prod.fst = (kind.lists element).map Prod.fst
  parts {name : String} {parts : List Entry} {items : List Json} (listed : (name, parts) ∈ entry.lists)
    (list : element.member? name = some (.array items)) : parts.length = items.length
  noParts {name : String} {parts : List Entry} (listed : (name, parts) ∈ entry.lists)
    (noList : ∀ items, element.member? name ≠ some (.array items)) : parts = []
  blank (noObject : ∀ members, element ≠ .object members) : entry = kind.blank
  texts {name : String} (h : kind.textList? element = some name) : ∃ texts, entry.texts? = some texts ∧
    List.Forall₂ Json.IsTextOf ((element.memberItems name).filter Json.isStringOrNumber) texts

theorem readsAs_read (kind : NodeKind) (element : Json) : kind.ReadsAs element (kind.read element) := by
  have readParts {name : String} {parts : List Entry} (listed : (name, parts) ∈ (kind.read element).lists) :
      ∃ item : NodeKind, parts = (element.memberItems name).map item.read := by
    rw [lists_read] at listed
    obtain ⟨l, -, same⟩ := List.mem_map.mp listed
    obtain ⟨rfl, rfl⟩ := Prod.mk.inj same
    exact ⟨l.2, rfl⟩
  constructor
  case names =>
    rw [lists_read, List.map_map]
    rfl
  case parts =>
    intro name parts items listed list
    obtain ⟨item, rfl⟩ := readParts listed
    rw [List.length_map, Json.memberItems, list]
  case noParts =>
    intro name parts listed noList
    obtain ⟨item, rfl⟩ := readParts listed
    have none : element.memberItems name = [] := by
      unfold Json.memberItems
      split
      · next items list => exact absurd list (noList items)
      · rfl
    rw [none, List.map_nil]
  case blank => exact read_of_no_object
  case texts => exact fun h => ⟨_, texts_read h, Json.forall₂_isTextOf _⟩

end NodeKind

theorem NodeKind.read_of_changedText {before after : List Json} {x y a b : Json} {kind : NodeKind}
    (h : kind.ChangedText before x y after a b) :
    (kind.read a).texts? =
        some (before.filterMap Json.scalarText? ++ x.scalarText?.toList ++ after.filterMap Json.scalarText?) ∧
      kind.read b = (kind.read a).withTexts
        (before.filterMap Json.scalarText? ++ y.scalarText?.toList ++ after.filterMap Json.scalarText?) := by
  obtain ⟨front, name, behind, texts, first, rfl, rfl⟩ := h
  have read (z : Json) : (Json.holding front name before z after behind).memberTexts name =
      before.filterMap Json.scalarText? ++ z.scalarText?.toList ++ after.filterMap Json.scalarText? := by
    rw [Json.memberTexts, Json.memberItems_holding first, List.filterMap_append, List.filterMap_cons]
    cases z.scalarText? <;> simp
  rw [texts_read texts, read]
  refine ⟨rfl, ?_⟩
  rw [← read y]
  exact read_withTexts texts fun other differ => Json.member?_holding_of_ne differ x y

namespace Schema

variable {schema : Schema} {json other : Json} {path : SchemaPath}

theorem ofJson_eq_ok_iff :
    Schema.ofJson json = .ok schema ↔
      (∃ members, json = .object members) ∧ NodeKind.form.read json = .form schema := by
  cases json with
  | object members => simp [Schema.ofJson, NodeKind.read]
  | _ => simp [Schema.ofJson]

theorem exists_error_iff : (∃ error, Schema.ofJson json = .error error) ↔ ∀ members, json ≠ .object members := by
  cases json with
  | object members => simp [Schema.ofJson]
  | _ => simp [Schema.ofJson]

theorem exists_ofJson (isObject : ∃ members, json = .object members) : ∃ schema, Schema.ofJson json = .ok schema := by
  obtain ⟨members, rfl⟩ := isObject
  exact ⟨_, rfl⟩

/-- Reading a form fails only if the document is no object. Otherwise each part stands at the place of the element
from which it is read, whatever the element is, and lists of texts leave out what is no text. A change of an element
changes no other part, and a change of members that are not looked at changes nothing. -/
theorem ofJson_places :
    (∀ json, (∃ error, Schema.ofJson json = .error error) ↔ ∀ members, json ≠ .object members) ∧
    ∀ json schema, Schema.ofJson json = .ok schema →
      (∀ path, (Entry.form schema).at? path = (NodeKind.element? path .form json).map fun e => e.1.read e.2) ∧
      (∀ path kind element, NodeKind.element? path .form json = some (kind, element) →
        ∃ entry, (Entry.form schema).at? path = some entry ∧ kind.ReadsAs element entry) ∧
      (∀ path other, ChangedAt NodeKind.ChangedUnread .form path json other → Schema.ofJson other = .ok schema) ∧
      (∀ change path other, path ≠ [] → ChangedAt change .form path json other →
        ∃ changed, Schema.ofJson other = .ok changed ∧ (Entry.form schema).AlikeBeside path (.form changed)) ∧
      ∀ before x y after path other, ChangedAt (NodeKind.ChangedText before x y after) .form path json other →
        ∃ changed entry, Schema.ofJson other = .ok changed ∧ (Entry.form schema).at? path = some entry ∧
          entry.texts? =
            some (before.filterMap Json.scalarText? ++ x.scalarText?.toList ++ after.filterMap Json.scalarText?) ∧
          (Entry.form changed).at? path = some (entry.withTexts
            (before.filterMap Json.scalarText? ++ y.scalarText?.toList ++ after.filterMap Json.scalarText?)) := by
  refine ⟨fun json => exists_error_iff, fun json schema read => ?_⟩
  have isForm := (ofJson_eq_ok_iff.mp read).2
  have atPath (path : SchemaPath) :
      (Entry.form schema).at? path = (NodeKind.element? path .form json).map fun e => e.1.read e.2 := by
    rw [← isForm, NodeKind.at?_read]
  refine ⟨atPath, fun path kind element found => ⟨kind.read element, ?_, kind.readsAs_read element⟩,
    fun path other h => ?_, fun change path other below h => ?_, fun before x y after path other h => ?_⟩
  · rw [atPath, found, Option.map_some]
  · have isObject := h.isObject fun _ ⟨_, others, _, same, _⟩ => ⟨others, same⟩
    have same := h.read_eq fun item x y changed => NodeKind.read_eq_of_changedUnread changed
    exact ofJson_eq_ok_iff.mpr ⟨isObject, same ▸ isForm⟩
  · obtain ⟨changed, readAgain⟩ := exists_ofJson (h.isObject fun root => absurd root below)
    have isChanged := (ofJson_eq_ok_iff.mp readAgain).2
    refine ⟨changed, readAgain, ?_⟩
    rw [← isForm, ← isChanged]
    exact h.alikeBeside_read
  · obtain ⟨changed, readAgain⟩ := exists_ofJson (h.isObject fun _ ⟨_, _, _, _, _, _, same⟩ => ⟨_, same⟩)
    obtain ⟨item, u, v, atX, atY, changedText⟩ := h.element?
    obtain ⟨texts, again⟩ := NodeKind.read_of_changedText changedText
    refine ⟨changed, item.read u, readAgain, ?_, texts, ?_⟩
    · rw [atPath, atX, Option.map_some]
    · rw [← (ofJson_eq_ok_iff.mp readAgain).2, NodeKind.at?_read, atY, ← again]
      rfl

def twoFields (first second : Json) : Json :=
  .holding [] "fields" [first] second [] [("type", .string "fieldset")]

/-- A form with a value that is no section, and then a section with two fields. -/
def twoFieldDocument (first second : Json) : Json :=
  .holding [] "sections" [.null] (twoFields first second) [] []

theorem changedAt_twoFieldDocument {change : NodeKind → Json → Json → Prop} {x y : Json} (h : change .field x y)
    (first : Json) :
    ChangedAt change .form [("sections", 1), ("fields", 1)] (twoFieldDocument first x) (twoFieldDocument first y) := by
  have fields : ("fields", .field) ∈ NodeKind.lists .formSection (twoFields first x) := List.mem_singleton_self _
  have sections : ("sections", .formSection) ∈ NodeKind.lists .form (twoFieldDocument first x) :=
    List.mem_singleton_self _
  exact .inside List.not_mem_nil sections (.inside List.not_mem_nil fields (.here h))

def radioField (option : Json) (behind : List (String × Json)) : Json :=
  .holding [("type", .string "radio")] "options" [.string "Yes"] option [] behind

theorem ofJson_places_twoFields :
    (∃ error, Schema.ofJson .null = .error error) ∧
    ∃ schema, Schema.ofJson (twoFieldDocument .null (radioField (.string "No") [])) = .ok schema ∧
      (Entry.form schema).at? [("sections", 0)] = some NodeKind.formSection.blank ∧
      Schema.ofJson (twoFieldDocument .null (radioField (.string "No") [("hint", .null)])) = .ok schema ∧
      (∃ changed, Schema.ofJson (twoFieldDocument .null .null) = .ok changed ∧
        (Entry.form schema).at? [("sections", 1), ("fields", 0)] =
          (Entry.form changed).at? [("sections", 1), ("fields", 0)]) ∧
      ∃ changed, ∃ entry : Entry, Schema.ofJson (twoFieldDocument .null (radioField .null [])) = .ok changed ∧
        entry.texts? = some ["Yes", "No"] ∧
        (Entry.form changed).at? [("sections", 1), ("fields", 1)] = some (entry.withTexts ["Yes"]) := by
  obtain ⟨schema, read⟩ :
      ∃ schema, Schema.ofJson (twoFieldDocument .null (radioField (.string "No") [])) = .ok schema :=
    exists_ofJson ⟨_, rfl⟩
  obtain ⟨_, elements, unread, beside, texts⟩ := ofJson_places.2 _ schema read
  refine ⟨(ofJson_places.1 .null).mpr nofun, schema, read, ?_, ?_, ?_, ?_⟩
  · obtain ⟨entry, found, readsAs⟩ := elements [("sections", 0)] .formSection .null rfl
    exact found.trans (congrArg some (readsAs.blank nofun))
  · exact unread _ _ (changedAt_twoFieldDocument ⟨_, _, rfl, rfl, rfl⟩ .null)
  · obtain ⟨changed, readAgain, same⟩ :=
      beside (fun _ _ _ => True) _ _ (by decide) (changedAt_twoFieldDocument (y := .null) trivial .null)
    exact ⟨changed, readAgain, (same [("sections", 1), ("fields", 0)] (by decide)).2 (by decide)⟩
  · obtain ⟨changed, entry, readAgain, _, said, saidThen⟩ := texts [.string "Yes"] (.string "No") .null [] _ _
      (changedAt_twoFieldDocument ⟨_, _, _, rfl, by decide, rfl, rfl⟩ .null)
    exact ⟨changed, entry, readAgain, said, saidThen⟩

end Schema

end InspectionForms
