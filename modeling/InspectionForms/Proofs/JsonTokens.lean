import InspectionForms.Json.Printer
import InspectionForms.Json.Reader
import InspectionForms.Proofs.JsonReread
import InspectionForms.Proofs.TokenText

namespace InspectionForms

namespace Json

/-- A value can be followed by these tokens. -/
def Follows (rest : List Token) : Prop := Token.Separated rest ∧ ∀ token ∈ rest.head?, token.isWord = false

theorem Follows.nil : Follows [] := ⟨.nil, by simp⟩

theorem Follows.cons (token : Token) {rest : List Token} (noWord : token.isWord = false)
    (h : Token.Separated rest) : Follows (token :: rest) := by
  refine ⟨List.isChain_cons.mpr ⟨fun next _ isWord => ?_, h⟩, by simpa using noWord⟩
  simp [noWord] at isWord

theorem Follows.word {token : Token} {rest : List Token} (h : Follows rest) : Token.Separated (token :: rest) :=
  List.isChain_cons.mpr ⟨fun next first _ => h.2 next first, h.1⟩

mutual

/-- No two words stand next to each other in a written value. -/
theorem separated_tokens (json : Json) {rest : List Token} (h : Follows rest) :
    Token.Separated (json.tokens ++ rest) := by
  match json with
  | .null | .bool _ | .number _ | .string _ => exact h.word
  | .array [] => exact (Follows.cons _ rfl h.word).1
  | .array (item :: items) =>
    have close : Follows (.closeArray :: rest) := .cons _ rfl h.1
    have written := separated_tokens item (follows_tokensOfItems items close)
    simpa [tokens] using (Follows.cons .openArray rfl written).1
  | .object [] => exact (Follows.cons _ rfl h.word).1
  | .object ((name, value) :: members) =>
    have close : Follows (.closeObject :: rest) := .cons _ rfl h.1
    have written := separated_tokens value (follows_tokensOfMembers members close)
    have colon := Follows.cons .colon rfl written
    have named := Follows.cons (.string name) rfl colon.1
    simpa [tokens] using (Follows.cons .openObject rfl named.1).1

theorem follows_tokensOfItems (items : List Json) {rest : List Token} (h : Follows rest) :
    Follows (tokensOfItems items ++ rest) := by
  match items with
  | [] => exact h
  | item :: items =>
    have written := separated_tokens item (follows_tokensOfItems items h)
    simpa [tokensOfItems] using Follows.cons .comma rfl written

theorem follows_tokensOfMembers (members : List (String × Json)) {rest : List Token} (h : Follows rest) :
    Follows (tokensOfMembers members ++ rest) := by
  match members with
  | [] => exact h
  | (name, value) :: members =>
    have written := separated_tokens value (follows_tokensOfMembers members h)
    have colon := Follows.cons .colon rfl written
    have named := Follows.cons (.string name) rfl colon.1
    simpa [tokensOfMembers] using Follows.cons .comma rfl named.1

end

mutual

/-- Reading token by token is reading value by value. -/
theorem mapM_reread_tokens (json : Json) : json.tokens.mapM Token.reread? = json.reread?.map tokens := by
  match json with
  | .null | .bool _ | .string _ | .array [] | .object [] => rfl
  | .number value =>
    cases h : Number.ofChars? value.text <;> simp [tokens, Token.reread?, reread?, h]
  | .array (item :: items) =>
    have first := mapM_reread_tokens item
    have others := mapM_reread_tokensOfItems items
    cases h : item.reread? <;> cases hs : rereadItems? items <;>
      simp [tokens, Token.reread?, reread?, rereadItems?, first, others, h, hs]
  | .object ((name, value) :: members) =>
    have first := mapM_reread_tokens value
    have others := mapM_reread_tokensOfMembers members
    cases h : value.reread? <;> cases hs : rereadMembers? members <;>
      simp [tokens, Token.reread?, reread?, rereadMembers?, first, others, h, hs]

theorem mapM_reread_tokensOfItems (items : List Json) :
    (tokensOfItems items).mapM Token.reread? = (rereadItems? items).map tokensOfItems := by
  match items with
  | [] => rfl
  | item :: items =>
    have first := mapM_reread_tokens item
    have others := mapM_reread_tokensOfItems items
    cases h : item.reread? <;> cases hs : rereadItems? items <;>
      simp [tokensOfItems, Token.reread?, rereadItems?, first, others, h, hs]

theorem mapM_reread_tokensOfMembers (members : List (String × Json)) :
    (tokensOfMembers members).mapM Token.reread? = (rereadMembers? members).map tokensOfMembers := by
  match members with
  | [] => rfl
  | (name, value) :: members =>
    have first := mapM_reread_tokens value
    have others := mapM_reread_tokensOfMembers members
    cases h : value.reread? <;> cases hs : rereadMembers? members <;>
      simp [tokensOfMembers, Token.reread?, rereadMembers?, first, others, h, hs]

end

end Json

namespace JsonBuilder

/-- Reading from a place on: tokens are taken one by one. -/
def readOn (limit : Nat) (builder : JsonBuilder) (tokens : List Token) : Option JsonBuilder :=
  tokens.foldlM (step limit) builder

theorem readOn_cons (limit : Nat) (builder : JsonBuilder) (token : Token) (rest : List Token) :
    readOn limit builder (token :: rest) = (step limit builder token).bind fun next => readOn limit next rest := by
  simp [readOn]

variable {limit : Nat} {around : List OpenContainer} {rest : List Token}

theorem readOn_openArray :
    readOn limit ⟨around, .value⟩ (.openArray :: rest) =
      if around.length < limit then readOn limit ⟨.array [] :: around, .valueOrClose⟩ rest else none := by
  rw [readOn_cons]
  by_cases room : around.length < limit <;> simp [step, openValue, room]

theorem readOn_openObject :
    readOn limit ⟨around, .value⟩ (.openObject :: rest) =
      if around.length < limit then readOn limit ⟨around, .name [] true⟩ rest else none := by
  rw [readOn_cons]
  by_cases room : around.length < limit <;> simp [step, openValue, room]

/-- Where an array may close a value is read as elsewhere. -/
theorem readOn_valueOrClose {token : Token} (h : token ≠ .closeArray) :
    readOn limit ⟨.array [] :: around, .valueOrClose⟩ (token :: rest) =
      readOn limit ⟨.array [] :: around, .value⟩ (token :: rest) := by
  rw [readOn_cons, readOn_cons]
  cases token <;> first | rfl | exact absurd rfl h

theorem readOn_named (members : List (String × Json)) (mayClose : Bool) (name : String) :
    readOn limit ⟨around, .name members mayClose⟩ (.string name :: .colon :: rest) =
      readOn limit ⟨.object members name :: around, .value⟩ rest := by
  cases mayClose <;> simp [readOn_cons, step]

theorem readOn_itemComma (items : List Json) (value : Json) :
    readOn limit ⟨.array items :: around, .rest value⟩ (.comma :: rest) =
      readOn limit ⟨.array (value :: items) :: around, .value⟩ rest := by
  simp [readOn_cons, step]

theorem readOn_memberComma (members : List (String × Json)) (name next : String) (value : Json) :
    readOn limit ⟨.object members name :: around, .rest value⟩ (.comma :: .string next :: .colon :: rest) =
      readOn limit ⟨.object ((name, value) :: members) next :: around, .value⟩ rest := by
  simp [readOn_cons, step]

theorem tokens_begin (json : Json) : ∃ token rest, json.tokens = token :: rest ∧ token ≠ .closeArray := by
  match json with
  | .null | .bool _ | .number _ | .string _ | .array [] | .array (_ :: _) | .object [] | .object (_ :: _) =>
    exact ⟨_, _, rfl, by simp⟩

mutual

/-- The tokens of a value are read as the value, exactly if there is room for all its containers. -/
theorem readOn_tokens (json : Json) (around : List OpenContainer) (rest : List Token)
    (room : around.length ≤ limit) :
    readOn limit ⟨around, .value⟩ (json.tokens ++ rest) =
      if json.depth + around.length ≤ limit then readOn limit ⟨around, .rest json⟩ rest else none := by
  match json with
  | .null | .bool _ | .number _ | .string _ =>
    rw [if_pos (by simpa [Json.depth] using room)]
    simp [Json.tokens, readOn_cons, step, openValue]
  | .array [] =>
    have deep : (Json.array []).depth + around.length ≤ limit ↔ around.length < limit := by
      simp only [Json.depth, Json.depthOfItems]
      omega
    simp only [Json.tokens, List.cons_append, readOn_openArray, deep]
    simp [readOn_cons, step]
  | .object [] =>
    have deep : (Json.object []).depth + around.length ≤ limit ↔ around.length < limit := by
      simp only [Json.depth, Json.depthOfMembers]
      omega
    simp only [Json.tokens, List.cons_append, readOn_openObject, deep]
    simp [readOn_cons, step]
  | .array (item :: items) =>
    simp only [Json.tokens, List.cons_append, List.append_assoc, List.nil_append, readOn_openArray]
    by_cases inside : around.length < limit
    · -- The first item cannot be taken for the end of an empty list.
      obtain ⟨token, others, begins, noClose⟩ := tokens_begin item
      have asValue (more : List Token) : readOn limit ⟨.array [] :: around, .valueOrClose⟩ (item.tokens ++ more) =
          readOn limit ⟨.array [] :: around, .value⟩ (item.tokens ++ more) := by
        rw [begins]
        exact readOn_valueOrClose noClose
      have within : (OpenContainer.array [] :: around).length ≤ limit := inside
      rw [if_pos inside, asValue, readOn_tokens item _ _ within,
        readOn_tokensOfItems items [] item around rest inside]
      simp only [List.length_cons, Json.depth, Json.depthOfItems, ← ite_and, List.reverse_nil, List.nil_append]
      refine if_congr ?_ rfl rfl
      omega
    · rw [if_neg inside, if_neg (by simp only [Json.depth]; omega)]
  | .object ((name, value) :: members) =>
    simp only [Json.tokens, List.cons_append, List.append_assoc, List.nil_append, readOn_openObject]
    by_cases inside : around.length < limit
    · have within : (OpenContainer.object [] name :: around).length ≤ limit := inside
      rw [if_pos inside, readOn_named, readOn_tokens value _ _ within,
        readOn_tokensOfMembers members [] name value around rest inside]
      simp only [List.length_cons, Json.depth, Json.depthOfMembers, ← ite_and, List.reverse_nil, List.nil_append]
      refine if_congr ?_ rfl rfl
      omega
    · rw [if_neg inside, if_neg (by simp only [Json.depth]; omega)]

theorem readOn_tokensOfItems (items done : List Json) (value : Json) (around : List OpenContainer)
    (rest : List Token) (room : around.length < limit) :
    readOn limit ⟨.array done :: around, .rest value⟩ (Json.tokensOfItems items ++ .closeArray :: rest) =
      if Json.depthOfItems items + (around.length + 1) ≤ limit then
        readOn limit ⟨around, .rest (.array (done.reverse ++ value :: items))⟩ rest
      else none := by
  match items with
  | [] =>
    rw [if_pos (by simp only [Json.depthOfItems]; omega)]
    simp [Json.tokensOfItems, readOn_cons, step]
  | item :: items =>
    simp only [Json.tokensOfItems, List.cons_append, List.append_assoc, readOn_itemComma]
    have inside : (OpenContainer.array (value :: done) :: around).length ≤ limit := room
    rw [readOn_tokens item _ _ inside, readOn_tokensOfItems items (value :: done) item around rest room]
    simp only [List.length_cons, Json.depthOfItems, ← ite_and, List.reverse_cons, List.append_assoc,
      List.singleton_append]
    refine if_congr ?_ rfl rfl
    omega

theorem readOn_tokensOfMembers (members done : List (String × Json)) (name : String) (value : Json)
    (around : List OpenContainer) (rest : List Token) (room : around.length < limit) :
    readOn limit ⟨.object done name :: around, .rest value⟩
        (Json.tokensOfMembers members ++ .closeObject :: rest) =
      if Json.depthOfMembers members + (around.length + 1) ≤ limit then
        readOn limit ⟨around, .rest (.object (done.reverse ++ (name, value) :: members))⟩ rest
      else none := by
  match members with
  | [] =>
    rw [if_pos (by simp only [Json.depthOfMembers]; omega)]
    simp [Json.tokensOfMembers, readOn_cons, step]
  | (next, item) :: members =>
    simp only [Json.tokensOfMembers, List.cons_append, List.append_assoc, readOn_memberComma]
    have inside : (OpenContainer.object ((name, value) :: done) next :: around).length ≤ limit := room
    rw [readOn_tokens item _ _ inside,
      readOn_tokensOfMembers members ((name, value) :: done) next item around rest room]
    simp only [List.length_cons, Json.depthOfMembers, ← ite_and, List.reverse_cons, List.append_assoc,
      List.singleton_append]
    refine if_congr ?_ rfl rfl
    omega

end

end JsonBuilder

end InspectionForms
