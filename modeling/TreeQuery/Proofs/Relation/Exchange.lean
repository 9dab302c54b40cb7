import Mathlib.Data.List.Forall2
import TreeQuery.Proofs.Except
import TreeQuery.Proofs.Json.RoundTrip
import TreeQuery.Relation.Exchange

set_option autoImplicit false

/-! # What the exchanged form accepts

A JSON value denotes a descriptor (`Descriptor.DenotedBy`) if it is an object that has the five
fields, among whatever else and in any order, or an array of the five fields in their order. Reading
accepts exactly these values and gives the descriptor that they denote
(`Descriptor.ofJson_eq_ok_iff`); the text that is written of a descriptor is one of them. -/

namespace TreeQuery

/-! ## Members of objects -/

namespace Json

variable {members : List (String × Json)} {key : String} {v : Json}

theorem foldl_lookup (members : List (String × Json)) (key : String) (found : Option Json) :
    members.foldl (fun found m => if m.1 = key then some m.2 else found) found =
      (lookup members key).or found := by
  induction members generalizing found with
  | nil => rfl
  | cons m members ih =>
      rw [lookup, List.foldl_cons, List.foldl_cons, ih, ih (if m.1 = key then _ else _),
        Option.or_assoc]
      split <;> rfl

theorem lookup_cons (m : String × Json) (members : List (String × Json)) (key : String) :
    lookup (m :: members) key =
      (lookup members key).or (if m.1 = key then some m.2 else none) :=
  foldl_lookup members key _

theorem lookup_eq_none_iff : lookup members key = none ↔ ∀ m ∈ members, m.1 ≠ key := by
  induction members with
  | nil => simp [lookup]
  | cons m members ih => simp [lookup_cons, ih, and_comm]

theorem mem_of_lookup (h : lookup members key = some v) : (key, v) ∈ members := by
  induction members with
  | nil => exact absurd h (by simp [lookup])
  | cons m members ih =>
      rw [lookup_cons, Option.or_eq_some_iff] at h
      rcases h with h | ⟨-, h⟩
      · exact List.mem_cons_of_mem _ (ih h)
      · split at h
        · next hkey =>
          obtain rfl := Option.some.inj h
          exact hkey ▸ List.mem_cons_self ..
        · cases h

/-- The order does not matter for a key whose members all have the same value. -/
theorem lookup_eq_some (hmem : (key, v) ∈ members) (hall : ∀ m ∈ members, m.1 = key → m.2 = v) :
    lookup members key = some v := by
  cases h : lookup members key with
  | none => exact absurd rfl (lookup_eq_none_iff.1 h _ hmem)
  | some w => rw [← hall _ (mem_of_lookup h) rfl]

/-- A map with one key is a map that has a value for this key alone. -/
theorem lookup_eq_ite_iff : (∀ k, lookup members k = if k = key then some v else none) ↔
    (members ≠ [] ∧ ∀ m ∈ members, m.1 = key) ∧ lookup members key = some v := by
  constructor
  · intro h
    have hkey : lookup members key = some v := (h key).trans (if_pos rfl)
    refine ⟨⟨List.ne_nil_of_mem (mem_of_lookup hkey), fun m hm => ?_⟩, hkey⟩
    by_contra hne
    exact lookup_eq_none_iff.1 ((h m.1).trans (if_neg hne)) m hm rfl
  · rintro ⟨⟨-, hall⟩, hkey⟩ k
    split
    · next heq => rw [heq, hkey]
    · next hne => exact lookup_eq_none_iff.2 fun m hm heq => hne (heq.symm.trans (hall m hm))

theorem keys_eq_singleton_iff :
    keys members = [key] ↔ members ≠ [] ∧ ∀ m ∈ members, m.1 = key := by
  constructor
  · intro h
    refine ⟨?_, fun m hm => ?_⟩
    · rintro rfl
      cases h
    · have hkey : m.1 ∈ keys members := List.mem_eraseDups.2 (List.mem_map_of_mem hm)
      rw [h] at hkey
      exact List.mem_singleton.1 hkey
  · rintro ⟨hne, hall⟩
    obtain ⟨m, members, rfl⟩ := List.exists_cons_of_ne_nil hne
    obtain ⟨rfl, hrest⟩ := List.forall_mem_cons.1 hall
    have hnil : (members.map Prod.fst).filter (fun k => !k == m.1) = [] :=
      List.filter_eq_nil_iff.2 (List.forall_mem_map.2 fun n hn => by simp [hrest n hn])
    rw [keys, List.map_cons, List.eraseDups_cons, hnil]
    rfl

end Json

namespace Relation

/-! ## Kinds -/

/-- The values that stand for a kind: its key, and an object that gives this key, and no other one,
the value null. -/
def Kind.SpelledBy (k : Kind) : Json → Prop
  | .string s => s = k.key
  | .object members => ∀ key, Json.lookup members key = if key = k.key then some .null else none
  | _ => False

theorem Kind.spelledBy_object (k : Kind) : k.SpelledBy (.object [(k.key, .null)]) := by
  intro key
  simp [Json.lookup, eq_comm]

theorem kindOfKey_eq_ok_iff {key : String} {k : Kind} : kindOfKey key = .ok k ↔ key = k.key := by
  rw [kindOfKey]
  constructor
  · intro h
    split at h
    · next hkind =>
      cases h
      exact (Kind.key_of_ofKey? hkind).symm
    · cases h
  · rintro rfl
    rw [Kind.ofKey?_key]

theorem readKind_eq_ok_iff {v : Json} {k : Kind} : readKind v = .ok k ↔ k.SpelledBy v := by
  cases v with
  | string s => exact kindOfKey_eq_ok_iff
  | object members =>
      rw [Kind.SpelledBy, Json.lookup_eq_ite_iff, ← Json.keys_eq_singleton_iff, readKind]
      constructor
      · intro h
        split at h
        · next key hkeys =>
          obtain ⟨kind, hkind, h⟩ := bind_eq_ok_iff.1 h
          obtain rfl := kindOfKey_eq_ok_iff.1 hkind
          split at h
          · next hnone =>
            obtain ⟨hne, hall⟩ := Json.keys_eq_singleton_iff.1 hkeys
            obtain ⟨m, hm⟩ := List.exists_mem_of_ne_nil _ hne
            exact absurd (hall m hm) (Json.lookup_eq_none_iff.1 hnone m hm)
          · next hnull =>
            cases h
            exact ⟨hkeys, hnull⟩
          · cases h
        · cases h
      · rintro ⟨hkeys, hnull⟩
        rw [hkeys]
        simp only [kindOfKey_eq_ok_iff.2 rfl, hnull]
        rfl
  | _ => simp [readKind, Kind.SpelledBy]

/-! ## Fields -/

theorem ofInt?_eq_some_iff {i : Int} {n : ChildIndex} :
    ChildIndex.ofInt? i = some n ↔ i = n.value := by
  constructor
  · intro h
    unfold ChildIndex.ofInt? at h
    split at h
    · next hrange =>
      cases h
      show i = (i.toNat : Int)
      omega
    · cases h
  · rintro rfl
    exact ChildIndex.ofInt?_value n

theorem readChildIndex_eq_ok_iff {v : Json} {n : ChildIndex} :
    readChildIndex v = .ok n ↔ v = .nat n.value := by
  cases v with
  | number number =>
      cases number with
      | integer i =>
          have hnat : Json.number (.integer i) = .nat n.value ↔ i = n.value := by
            simp [Json.nat, Json.int]
          rw [hnat, ← ofInt?_eq_some_iff, readChildIndex]
          cases ChildIndex.ofInt? i <;> simp
      | binary bits => simp [readChildIndex, Json.nat, Json.int]
  | _ => simp [readChildIndex, Json.nat, Json.int]

theorem readBool_eq_ok_iff {v : Json} {b : Bool} : readBool v = .ok b ↔ v = .bool b := by
  cases v <;> simp [readBool]

theorem readText_eq_ok_iff {v : Json} {s : String} : readText v = .ok s ↔ v = .string s := by
  cases v <;> simp [readText]

/-- All fields, in the order in which they are written. -/
def Field.all : List Field := [kind, negative, optional, n, via]

theorem Field.mem_all (field : Field) : field ∈ all := by cases field <;> decide

theorem Field.forall_iff {p : Field → Prop} :
    (∀ field, p field) ↔ p .kind ∧ p .negative ∧ p .optional ∧ p .n ∧ p .via := by
  constructor
  · exact fun h => ⟨h _, h _, h _, h _, h _⟩
  · rintro ⟨hkind, hnegative, hoptional, hn, hvia⟩ field
    cases field <;> assumption

theorem Field.key_injective : Function.Injective key := by
  intro field field' h
  cases field <;> cases field' <;> first | rfl | exact absurd h (by decide)

namespace Descriptor

/-! ## Descriptors -/

/-- A value stands for a field of a descriptor. -/
def Holds (d : Descriptor) : Field → Json → Prop
  | .kind, v => d.kind.SpelledBy v
  | .negative, v => v = .bool d.negative
  | .optional, v => v = .bool d.optional
  | .n, v => v = .nat d.n.value
  | .via, v => v = .string d.via

/-- The values that denote a descriptor: an object that has its fields, and an array of its fields
in their order. -/
def DenotedBy (d : Descriptor) : Json → Prop
  | .object members =>
    ∀ field : Field, ∃ v, Json.lookup members field.key = some v ∧ d.Holds field v
  | .array items => List.Forall₂ d.Holds Field.all items
  | _ => False

variable {d : Descriptor}

theorem readMember_eq_ok_some_iff {α : Type} {members : List (String × Json)} {field : Field}
    {read : Json → Except ReadError α} {a : α} :
    readMember members field read = .ok (some a) ↔
      ∃ v, Json.lookup members field.key = some v ∧ read v = .ok a := by
  rw [readMember]
  cases Json.lookup members field.key with
  | none => simp
  | some v =>
      cases h : read v <;> simp [h, Functor.map, Except.map]

theorem require_eq_ok_iff {α : Type} {field : Field} {o : Option α} {a : α} :
    require field o = .ok a ↔ o = some a := by
  cases o <;> simp [require]

theorem ofMembers_eq_ok_iff {members : List (String × Json)} :
    ofMembers members = .ok d ↔ d.DenotedBy (.object members) := by
  simp only [DenotedBy, Field.forall_iff, Holds, ← readKind_eq_ok_iff, ← readBool_eq_ok_iff,
    ← readChildIndex_eq_ok_iff, ← readText_eq_ok_iff, ← readMember_eq_ok_some_iff, ofMembers,
    bind_eq_ok_iff, require_eq_ok_iff]
  constructor
  · rintro ⟨_, hkind, _, hn, _, hnegative, _, hoptional, _, hvia, _, rfl, _, rfl, _, rfl, _, rfl, _,
      rfl, hd⟩
    cases hd
    exact ⟨hkind, hnegative, hoptional, hn, hvia⟩
  · rintro ⟨hkind, hnegative, hoptional, hn, hvia⟩
    exact ⟨_, hkind, _, hn, _, hnegative, _, hoptional, _, hvia, _, rfl, _, rfl, _, rfl, _, rfl, _,
      rfl, rfl⟩

theorem nextItem_eq_ok_iff {α : Type} {length : Nat} {read : Json → Except ReadError α}
    {items rest : List Json} {a : α} :
    nextItem length read items = .ok (a, rest) ↔ ∃ v, items = v :: rest ∧ read v = .ok a := by
  cases items with
  | nil => simp [nextItem]
  | cons v items =>
    rw [nextItem]
    cases h : read v <;> simp [h, Functor.map, Except.map, and_comm]

theorem denotedBy_array_iff {items : List Json} :
    d.DenotedBy (.array items) ↔ ∃ kind negative optional n via,
      items = [kind, negative, optional, n, via] ∧ d.Holds .kind kind ∧
        d.Holds .negative negative ∧ d.Holds .optional optional ∧ d.Holds .n n ∧
          d.Holds .via via := by
  constructor
  · intro h
    rcases h with _ | ⟨hkind, _ | ⟨hnegative, _ | ⟨hoptional, _ | ⟨hn, _ | ⟨hvia, ⟨⟩⟩⟩⟩⟩⟩
    exact ⟨_, _, _, _, _, rfl, hkind, hnegative, hoptional, hn, hvia⟩
  · rintro ⟨_, _, _, _, _, rfl, hkind, hnegative, hoptional, hn, hvia⟩
    exact .cons hkind (.cons hnegative (.cons hoptional (.cons hn (.cons hvia .nil))))

theorem ofItems_eq_ok_iff {items : List Json} :
    ofItems items = .ok d ↔ d.DenotedBy (.array items) := by
  simp only [denotedBy_array_iff, Holds, ← readKind_eq_ok_iff, ← readBool_eq_ok_iff,
    ← readChildIndex_eq_ok_iff, ← readText_eq_ok_iff, ofItems, bind_eq_ok_iff, Prod.exists,
    nextItem_eq_ok_iff]
  constructor
  · rintro ⟨_, _, ⟨_, rfl, hkind⟩, _, _, ⟨_, rfl, hnegative⟩, _, _, ⟨_, rfl, hoptional⟩, _, _,
      ⟨_, rfl, hn⟩, _, rest, ⟨_, rfl, hvia⟩, hd⟩
    split at hd
    · next hrest =>
      obtain rfl := List.isEmpty_iff.1 hrest
      cases hd
      exact ⟨_, _, _, _, _, rfl, hkind, hnegative, hoptional, hn, hvia⟩
    · cases hd
  · rintro ⟨_, _, _, _, _, rfl, hkind, hnegative, hoptional, hn, hvia⟩
    exact ⟨_, _, ⟨_, rfl, hkind⟩, _, _, ⟨_, rfl, hnegative⟩, _, _, ⟨_, rfl, hoptional⟩, _, _,
      ⟨_, rfl, hn⟩, _, _, ⟨_, rfl, hvia⟩, rfl⟩

/-- **Reading accepts exactly the values that denote a descriptor.** -/
theorem ofJson_eq_ok_iff {v : Json} : ofJson v = .ok d ↔ d.DenotedBy v := by
  cases v with
  | object members => exact ofMembers_eq_ok_iff
  | array items => exact ofItems_eq_ok_iff
  | _ => simp [ofJson, DenotedBy]

/-! ## Writing -/

/-- The value that is written of a field. -/
def fieldValue (d : Descriptor) : Field → Json
  | .kind => .string d.kind.key
  | .negative => .bool d.negative
  | .optional => .bool d.optional
  | .n => .nat d.n.value
  | .via => .string d.via

/-- The members that are written of a descriptor. -/
def members (d : Descriptor) : List (String × Json) :=
  Field.all.map fun field => (field.key, d.fieldValue field)

theorem toJson_eq (d : Descriptor) : d.toJson = .object d.members := rfl

theorem holds_fieldValue (d : Descriptor) (field : Field) : d.Holds field (d.fieldValue field) := by
  cases field <;> rfl

/-- The fields can stand in any order, and among any others. -/
theorem denotedBy_object {others members : List (String × Json)}
    (hothers : ∀ m ∈ others, ∀ field : Field, m.1 ≠ field.key)
    (hmembers : members.Perm (d.members ++ others)) : d.DenotedBy (.object members) := by
  refine fun field => ⟨d.fieldValue field, Json.lookup_eq_some ?_ fun m hm hkey => ?_,
    d.holds_fieldValue field⟩
  · exact hmembers.mem_iff.2 (List.mem_append_left _ (List.mem_map_of_mem field.mem_all))
  · rcases List.mem_append.1 (hmembers.mem_iff.1 hm) with hm | hm
    · obtain ⟨field', -, rfl⟩ := List.mem_map.1 hm
      rw [Field.key_injective hkey]
    · exact absurd hkey (hothers m hm field)

theorem denotedBy_array (d : Descriptor) : d.DenotedBy (.array (Field.all.map d.fieldValue)) :=
  List.forall₂_map_right_iff.2 (List.forall₂_same.2 fun field _ => d.holds_fieldValue field)

theorem whole_toJson (d : Descriptor) : d.toJson.Whole := by
  have hn : (d.n.value : Int) < UInt64.size := by
    have hsize := d.n.lt_size
    have hsizes : UInt32.size < UInt64.size := by decide
    omega
  have hpos : -(UInt64.size / 2 : Nat) ≤ (d.n.value : Int) := by omega
  exact ⟨trivial, trivial, trivial, ⟨hpos, hn⟩, trivial, trivial⟩

/-! ## Reading what was written -/

/-- **Descriptors are exchanged without loss.** The text of a descriptor is read as the value that
was written, and that value as the descriptor. The same descriptor is read from any object that has
its five members, in any order and among members with other keys, and from the array of their
values. And a value is read as the descriptor exactly if it denotes it; the number is then the one
that stands there, and in its range. -/
theorem exchange_lossless (d : Descriptor) :
    Json.ofText? d.exchangeText = some d.toJson ∧ ofJson d.toJson = .ok d ∧
    (∀ others members : List (String × Json), (∀ m ∈ others, ∀ field : Field, m.1 ≠ field.key) →
      members.Perm (d.members ++ others) → ofJson (.object members) = .ok d) ∧
    ofJson (.array (Field.all.map d.fieldValue)) = .ok d ∧
    (∀ v, ofJson v = .ok d ↔ d.DenotedBy v) ∧ 1 ≤ d.n.value ∧ d.n.value < UInt32.size := by
  have hread (others members : List (String × Json))
      (hothers : ∀ m ∈ others, ∀ field : Field, m.1 ≠ field.key)
      (hmembers : members.Perm (d.members ++ others)) : ofJson (.object members) = .ok d :=
    ofJson_eq_ok_iff.2 (denotedBy_object hothers hmembers)
  have hwritten : ofJson d.toJson = .ok d := by
    rw [toJson_eq]
    exact hread [] d.members (fun m hm => absurd hm List.not_mem_nil) (by rw [List.append_nil])
  exact ⟨Json.ofText?_text d.whole_toJson, hwritten, hread, ofJson_eq_ok_iff.2 d.denotedBy_array,
    fun v => ofJson_eq_ok_iff, d.n.pos, d.n.lt_size⟩

/-- A descriptor with the greatest number and a via pattern that is full of escapes. -/
def awkward : Descriptor where
  kind := .nthToLastChild
  negative := true
  n := ⟨4294967295, by decide, by decide⟩
  via := "\"\\\n\x01/\u00e9"

/-- The same descriptor is read from its text, from members in another order, one of them with an
unknown key, and from an array with the other spelling of the kind. A zero is refused. -/
theorem exchange_lossless_awkward :
    awkward.exchangeText = "\x7b\"kind\":\"nth_to_last_child\",\"negative\":true," ++
      "\"optional\":false,\"n\":4294967295,\"via\":\"\\\"\\\\\\n\\u0001/\u00e9\"\x7d" ∧
    Json.ofText? awkward.exchangeText = some awkward.toJson ∧
    ofJson (.object [("via", .string awkward.via), ("x", .null), ("n", .nat 4294967295),
      ("optional", .bool false), ("kind", .string "nth_to_last_child"), ("negative", .bool true)]) =
      .ok awkward ∧
    ofJson (.array [.object [("nth_to_last_child", .null)], .bool true, .bool false,
      .nat 4294967295, .string awkward.via]) = .ok awkward ∧
    ∀ d, ofJson (.array [.string "sibling", .bool true, .bool true, .nat 0, .string ""]) ≠
      .ok d := by
  obtain ⟨htext, -, hmembers, -, hiff, -, -⟩ := exchange_lossless awkward
  refine ⟨by decide +kernel, htext, hmembers [("x", .null)] _ ?_ ?_, (hiff _).2 ?_, fun d h => ?_⟩
  · intro m hm field
    obtain rfl := List.mem_singleton.1 hm
    cases field <;> decide
  · have hplaces : [4, 5, 3, 2, 0, 1].Perm [0, 1, 2, 3, 4, 5] := by decide
    exact hplaces.map fun i => (awkward.members ++ [("x", Json.null)]).getD i ("x", .null)
  · have hspelled := Kind.spelledBy_object .nthToLastChild
    exact denotedBy_array_iff.2 ⟨_, _, _, _, _, rfl, hspelled, rfl, rfl, rfl, rfl⟩
  · have hdenoted := ((exchange_lossless d).2.2.2.2.1 _).1 h
    obtain ⟨_, _, _, _, _, hitems, -, -, -, hn, -⟩ := denotedBy_array_iff.1 hdenoted
    cases hitems
    have hpos := d.n.pos
    simp only [Holds, Json.nat, Json.int, Json.number.injEq, Json.Number.integer.injEq] at hn
    omega

end Descriptor

end Relation

end TreeQuery
