import WaybillBoard.Json.Reader

/-!
Documents as tokens. The tokens of a document lead from the beginning to this document, and no
others do: the place of the reader says which tokens have led to it.
-/

namespace WaybillBoard.Json

/-- What stands in a text between blanks. -/
inductive Token
  | mark (mark : UInt8)
  | null
  | bool (b : Bool)
  | number (digits : List Char)
  | string (literal : Literal)

/-- The place after a token. -/
def Place.take (place : Place) : Token → Option Place
  | .mark b => place.mark b
  | .null => place.scalar .null
  | .bool b => place.scalar (.bool b)
  | .number digits => place.scalar (.number digits)
  | .string literal => place.string literal

mutual

/-- The tokens of a document in the order of the text. -/
def tokens : Json → List Token
  | .null => [.null]
  | .bool b => [.bool b]
  | .number digits => [.number digits]
  | .string literal => [.string literal]
  | .array [] => [.mark 0x5B, .mark 0x5D]
  | .array (item :: items) => .mark 0x5B :: (tokens item ++ laterItems items)
  | .object [] => [.mark 0x7B, .mark 0x7D]
  | .object ((name, value) :: members) =>
    .mark 0x7B :: .string name :: .mark 0x3A :: (tokens value ++ laterMembers members)

/-- The items behind the first one, to the end of the array. -/
def laterItems : List Json → List Token
  | [] => [.mark 0x5D]
  | item :: items => .mark 0x2C :: (tokens item ++ laterItems items)

/-- The members behind the first one, to the end of the object. -/
def laterMembers : List (Literal × Json) → List Token
  | [] => [.mark 0x7D]
  | (name, value) :: members =>
    .mark 0x2C :: .string name :: .mark 0x3A :: (tokens value ++ laterMembers members)

end

/-! ### The tokens of a document lead to it -/

/-- The containers around a value that may stand here. -/
def Place.around? : Place → Option (List Frame)
  | .value frames => some frames
  | .itemOrEnd frames => some (.array [] :: frames)
  | _ => none

/-- The members before one that may stand here, and the containers around the object. -/
def Place.members? : Place → Option (List (Literal × Json) × List Frame)
  | .nameOrEnd frames => some ([], frames)
  | .memberName members frames => some (members, frames)
  | _ => none

variable {place : Place} {frames : List Frame}

theorem Place.scalar_of_around (h : place.around? = some frames) (value : Json) :
    place.scalar value = some (filled value frames) := by
  cases place <;> cases h <;> rfl

theorem Place.string_of_around (h : place.around? = some frames) (literal : Literal) :
    place.string literal = some (filled (.string literal) frames) := by
  cases place <;> cases h <;> rfl

theorem foldlM_append_of {ts : List Token} {next : Place}
    (h : ts.foldlM Place.take place = some next) (more : List Token) :
    (ts ++ more).foldlM Place.take place = more.foldlM Place.take next := by
  rw [List.foldlM_append, h]
  rfl

theorem foldlM_array (h : place.around? = some frames) (ts : List Token) :
    (Token.mark 0x5B :: ts).foldlM Place.take place = ts.foldlM Place.take (.itemOrEnd frames) := by
  cases place <;> cases h <;> rfl

theorem foldlM_object (h : place.around? = some frames) (ts : List Token) :
    (Token.mark 0x7B :: ts).foldlM Place.take place = ts.foldlM Place.take (.nameOrEnd frames) := by
  cases place <;> cases h <;> rfl

theorem foldlM_name {before : List (Literal × Json)} (h : place.members? = some (before, frames))
    (name : Literal) (ts : List Token) :
    (Token.string name :: .mark 0x3A :: ts).foldlM Place.take place =
      ts.foldlM Place.take (.value (.object before name :: frames)) := by
  cases place <;> cases h <;> rfl

theorem foldlM_comma_item (before : List Json) (ts : List Token) :
    (Token.mark 0x2C :: ts).foldlM Place.take (.afterItem before frames) =
      ts.foldlM Place.take (.value (.array before :: frames)) := rfl

theorem foldlM_comma_member (before : List (Literal × Json)) (ts : List Token) :
    (Token.mark 0x2C :: ts).foldlM Place.take (.afterMember before frames) =
      ts.foldlM Place.take (.memberName before frames) := rfl

mutual

theorem foldlM_tokens (j : Json) {place : Place} {frames : List Frame}
    (h : place.around? = some frames) :
    (tokens j).foldlM Place.take place = some (Place.filled j frames) := by
  cases j with
  | null => simp [tokens, Place.take, Place.scalar_of_around h]
  | bool b => simp [tokens, Place.take, Place.scalar_of_around h]
  | number digits => simp [tokens, Place.take, Place.scalar_of_around h]
  | string literal => simp [tokens, Place.take, Place.string_of_around h]
  | array items =>
      cases items with
      | nil =>
          rw [tokens, foldlM_array h]
          rfl
      | cons item items =>
          have hplace : (Place.itemOrEnd frames).around? = some (.array [] :: frames) := rfl
          rw [tokens, foldlM_array h, foldlM_append_of (foldlM_tokens item hplace)]
          exact foldlM_laterItems items
  | object members =>
      cases members with
      | nil =>
          rw [tokens, foldlM_object h]
          rfl
      | cons m members =>
          obtain ⟨name, value⟩ := m
          have hplace : (Place.value (.object [] name :: frames)).around? =
              some (.object [] name :: frames) := rfl
          rw [tokens, foldlM_object h, foldlM_name rfl,
            foldlM_append_of (foldlM_tokens value hplace)]
          exact foldlM_laterMembers members

theorem foldlM_laterItems (items : List Json) {before : List Json} {frames : List Frame} :
    (laterItems items).foldlM Place.take (.afterItem before frames) =
      some (Place.filled (.array (before.reverse ++ items)) frames) := by
  cases items with
  | nil =>
      rw [laterItems, List.append_nil]
      rfl
  | cons item items =>
      have hplace : (Place.value (.array before :: frames)).around? =
          some (.array before :: frames) := rfl
      rw [laterItems, foldlM_comma_item, foldlM_append_of (foldlM_tokens item hplace)]
      refine (foldlM_laterItems items).trans ?_
      rw [List.reverse_cons, List.append_assoc, List.singleton_append]

theorem foldlM_laterMembers (members : List (Literal × Json)) {before : List (Literal × Json)}
    {frames : List Frame} :
    (laterMembers members).foldlM Place.take (.afterMember before frames) =
      some (Place.filled (.object (before.reverse ++ members)) frames) := by
  cases members with
  | nil =>
      rw [laterMembers, List.append_nil]
      rfl
  | cons m members =>
      obtain ⟨name, value⟩ := m
      have hplace : (Place.value (.object before name :: frames)).around? =
          some (.object before name :: frames) := rfl
      rw [laterMembers, foldlM_comma_member, foldlM_name rfl,
        foldlM_append_of (foldlM_tokens value hplace)]
      refine (foldlM_laterMembers members).trans ?_
      rw [List.reverse_cons, List.append_assoc, List.singleton_append]

end

/-! ### No other tokens lead to a document -/

/-- An array up to where an item is expected, the last item first. -/
def openItems : List Json → List Token
  | [] => [.mark 0x5B]
  | item :: items => openItems items ++ tokens item ++ [.mark 0x2C]

def memberTokens (m : Literal × Json) : List Token := .string m.1 :: .mark 0x3A :: tokens m.2

/-- An object up to where a member is expected, the last member first. -/
def openMembers : List (Literal × Json) → List Token
  | [] => [.mark 0x7B]
  | m :: members => openMembers members ++ memberTokens m ++ [.mark 0x2C]

/-- The tokens of the containers that are open. -/
def openFrames : List Frame → List Token
  | [] => []
  | .array items :: frames => openFrames frames ++ openItems items
  | .object members name :: frames =>
    openFrames frames ++ openMembers members ++ [.string name, .mark 0x3A]

/-- The tokens have led to the place. -/
def Place.IsAfter (ts : List Token) : Place → Prop
  | .value frames => ts = openFrames frames
  | .itemOrEnd frames => ts = openFrames frames ++ [.mark 0x5B]
  | .afterItem items frames => ∃ item before, items = item :: before ∧
      ts = openFrames frames ++ openItems before ++ tokens item
  | .nameOrEnd frames => ts = openFrames frames ++ [.mark 0x7B]
  | .memberName members frames => ts = openFrames frames ++ openMembers members
  | .colon members name frames => ts = openFrames frames ++ openMembers members ++ [.string name]
  | .afterMember members frames => ∃ m before, members = m :: before ∧
      ts = openFrames frames ++ openMembers before ++ memberTokens m
  | .done document => ts = tokens document

theorem openItems_append_laterItems (before : List Json) (item : Json) (items : List Json) :
    openItems before ++ tokens item ++ laterItems items =
      tokens (.array (before.reverse ++ item :: items)) := by
  induction before generalizing item items with
  | nil => simp [openItems, tokens]
  | cons last before ih =>
      have hlast := ih last (item :: items)
      simpa [openItems, laterItems] using hlast

theorem openMembers_append_laterMembers (before : List (Literal × Json)) (m : Literal × Json)
    (members : List (Literal × Json)) :
    openMembers before ++ memberTokens m ++ laterMembers members =
      tokens (.object (before.reverse ++ m :: members)) := by
  induction before generalizing m members with
  | nil => simp [openMembers, memberTokens, tokens]
  | cons last before ih =>
      have hlast := ih last (m :: members)
      simpa [openMembers, laterMembers, memberTokens] using hlast

theorem Place.isAfter_filled (value : Json) (frames : List Frame) :
    (Place.filled value frames).IsAfter (openFrames frames ++ tokens value) := by
  cases frames with
  | nil => rfl
  | cons frame frames =>
      cases frame with
      | array items => exact ⟨value, items, rfl, by simp [openFrames]⟩
      | object members name => exact ⟨(name, value), members, rfl, by simp [openFrames, memberTokens]⟩

theorem Place.IsAfter.scalar {ts : List Token} (h : place.IsAfter ts) {next : Place} {value : Json}
    {t : Token} (htokens : tokens value = [t]) (hnext : place.scalar value = some next) :
    next.IsAfter (ts ++ [t]) := by
  rw [← htokens]
  cases place with
  | value frames =>
      obtain rfl := Option.some.inj hnext
      obtain rfl : ts = openFrames frames := h
      exact isAfter_filled value frames
  | itemOrEnd frames =>
      obtain rfl := Option.some.inj hnext
      obtain rfl : ts = openFrames frames ++ [Token.mark 0x5B] := h
      exact isAfter_filled value (.array [] :: frames)
  | afterItem | nameOrEnd | memberName | colon | afterMember | done => cases hnext

theorem Place.IsAfter.string {ts : List Token} (h : place.IsAfter ts) {next : Place}
    {literal : Literal} (hnext : place.string literal = some next) :
    next.IsAfter (ts ++ [.string literal]) := by
  have htokens : tokens (.string literal) = [.string literal] := by rw [tokens]
  cases place with
  | nameOrEnd frames =>
      obtain rfl := Option.some.inj hnext
      obtain rfl : ts = openFrames frames ++ [Token.mark 0x7B] := h
      rfl
  | memberName members frames =>
      obtain rfl := Option.some.inj hnext
      obtain rfl : ts = openFrames frames ++ openMembers members := h
      rfl
  | value | itemOrEnd | afterItem | colon | afterMember | done =>
      exact h.scalar htokens hnext

theorem Place.IsAfter.mark {ts : List Token} (h : place.IsAfter ts) {next : Place} {b : UInt8}
    (hnext : place.mark b = some next) : next.IsAfter (ts ++ [.mark b]) := by
  cases place with
  | value frames =>
      obtain rfl : ts = openFrames frames := h
      simp only [Place.mark] at hnext
      split at hnext
      · next hb =>
        obtain rfl := Option.some.inj hnext
        simp [IsAfter, hb]
      · split at hnext
        · next hb =>
          obtain rfl := Option.some.inj hnext
          simp [IsAfter, hb]
        · cases hnext
  | itemOrEnd frames =>
      obtain rfl : ts = openFrames frames ++ [Token.mark 0x5B] := h
      simp only [Place.mark] at hnext
      split at hnext
      · next hb =>
        obtain rfl := Option.some.inj hnext
        simpa [hb, tokens] using isAfter_filled (.array []) frames
      · split at hnext
        · next hb =>
          obtain rfl := Option.some.inj hnext
          simp [IsAfter, openFrames, openItems, hb]
        · split at hnext
          · next hb =>
            obtain rfl := Option.some.inj hnext
            simp [IsAfter, openFrames, openItems, hb]
          · cases hnext
  | afterItem items frames =>
      obtain ⟨item, before, rfl, rfl⟩ := h
      simp only [Place.mark] at hnext
      split at hnext
      · next hb =>
        obtain rfl := Option.some.inj hnext
        simp [IsAfter, openFrames, openItems, hb]
      · split at hnext
        · next hb =>
          obtain rfl := Option.some.inj hnext
          have htokens := openItems_append_laterItems before item []
          simpa [hb, ← htokens, laterItems] using
            isAfter_filled (.array (item :: before).reverse) frames
        · cases hnext
  | nameOrEnd frames =>
      obtain rfl : ts = openFrames frames ++ [Token.mark 0x7B] := h
      simp only [Place.mark] at hnext
      split at hnext
      · next hb =>
        obtain rfl := Option.some.inj hnext
        simpa [hb, tokens] using isAfter_filled (.object []) frames
      · cases hnext
  | colon members name frames =>
      obtain rfl : ts = openFrames frames ++ openMembers members ++ [Token.string name] := h
      simp only [Place.mark] at hnext
      split at hnext
      · next hb =>
        obtain rfl := Option.some.inj hnext
        simp [IsAfter, openFrames, hb]
      · cases hnext
  | afterMember members frames =>
      obtain ⟨m, before, rfl, rfl⟩ := h
      simp only [Place.mark] at hnext
      split at hnext
      · next hb =>
        obtain rfl := Option.some.inj hnext
        simp [IsAfter, openMembers, hb]
      · split at hnext
        · next hb =>
          obtain rfl := Option.some.inj hnext
          have htokens := openMembers_append_laterMembers before m []
          simpa [hb, ← htokens, laterMembers] using
            isAfter_filled (.object (m :: before).reverse) frames
        · cases hnext
  | memberName | done => cases hnext

/-- What one token adds. -/
theorem Place.IsAfter.take {ts : List Token} (h : place.IsAfter ts) {t : Token} {next : Place}
    (hnext : place.take t = some next) : next.IsAfter (ts ++ [t]) := by
  cases t with
  | mark b => exact h.mark hnext
  | null => exact h.scalar (by rw [tokens]) hnext
  | bool b => exact h.scalar (by rw [tokens]) hnext
  | number digits => exact h.scalar (by rw [tokens]) hnext
  | string literal => exact h.string hnext

theorem Place.IsAfter.foldlM {before ts : List Token} (h : place.IsAfter before) {next : Place}
    (hnext : ts.foldlM Place.take place = some next) : next.IsAfter (before ++ ts) := by
  induction ts generalizing place before with
  | nil =>
      obtain rfl := Option.some.inj hnext
      rwa [List.append_nil]
  | cons t ts ih =>
      rw [List.foldlM_cons] at hnext
      obtain ⟨middle, hmiddle, hnext⟩ := Option.bind_eq_some_iff.mp hnext
      rw [List.append_cons]
      exact ih (h.take hmiddle) hnext

/-- A document is reached by its own tokens only. -/
theorem foldlM_eq_done_iff {ts : List Token} {document : Json} :
    ts.foldlM Place.take (.value []) = some (.done document) ↔ ts = tokens document := by
  constructor
  · intro h
    have hbegin : (Place.value []).IsAfter [] := rfl
    exact hbegin.foldlM h
  · rintro rfl
    have hbegin : (Place.value []).around? = some [] := rfl
    exact foldlM_tokens document hbegin

end WaybillBoard.Json
