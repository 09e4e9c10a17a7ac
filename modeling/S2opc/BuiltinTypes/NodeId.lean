/-
Equality, order and hash of NodeIds.

`SOPC_NodeId_Equal`, `SOPC_NodeId_Compare` and `SOPC_NodeId_Hash` are three
traversals of the same value.  A comparison is the sign of the source's int,
`none` its `SOPC_STATUS_INVALID_PARAMETERS`.  The functions take pointers and
begin by comparing them, so they are given a memory and two addresses.  The
order is that of a key; the hash covers more bytes than the order looks at
when a string identifier holds a zero.
-/
import S2opc.BuiltinTypes.Basic
import S2opc.Lib.Bytes

namespace S2opc.BuiltinTypes

open Lib.Bytes Int32

/-! ## The source's functions -/

variable (left right : SopcString)

/-- `SOPC_String_Compare` without case folding: the bytes of a string are followed by a
    zero, and `strcmp` reads no further than the first one. -/
def stringCompare : Ordering :=
  if left.length ≤ 0 ∧ right.length ≤ 0 then .eq
  else if left.length = right.length then strcmp (left.data ++ [0]) (right.data ++ [0])
  else if right.length < left.length then .gt
  else .lt

/-- `SOPC_String_Equal`. -/
def stringEqual : Bool := stringCompare left right = .eq

/-- `SOPC_ByteString_Compare`. -/
def byteStringCompare : Ordering :=
  if left.length = right.length ∨ (left.length ≤ 0 ∧ right.length ≤ 0) then
    if left.length ≤ 0 ∧ right.length ≤ 0 then .eq else memcmp left.data right.data
  else if right.length < left.length then .gt
  else .lt

/-- `SOPC_ByteString_Equal`. -/
def byteStringEqual : Bool := byteStringCompare left right = .eq

/-- The 16 bytes of a Guid in memory, on a little-endian machine. -/
def guidBytes (g : Guid) : List UInt8 :=
  leBytes 4 g.data1.toNat ++ leBytes 2 g.data2.toNat ++ leBytes 2 g.data3.toNat ++ g.data4.toList

/-- The value of `IdentifierType`. -/
def identifierType : Identifier → Nat
  | .numeric _ => 0
  | .string _ => 1
  | .guid _ => 2
  | .byteString _ => 3

/-- `SOPC_NodeId_Equal`. -/
def nodeIdEqual (mem : Nat → NodeId) (left right : Nat) : Bool :=
  if left = right then true
  else if (mem left).namespaceIndex = (mem right).namespaceIndex ∧
      identifierType (mem left).data = identifierType (mem right).data then
    match (mem left).data, (mem right).data with
    | .numeric n, .numeric m => n = m
    | .string s, .string t => stringEqual s t
    | .guid (some g), .guid (some h) => memcmp (guidBytes g) (guidBytes h) = .eq
    | .byteString s, .byteString t => byteStringEqual s t
    | _, _ => false
  else false

/-- The comparison of two identifiers of one type. -/
def identifierCompare : Identifier → Identifier → Option Ordering
  | .numeric n, .numeric m => some (if n = m then .eq else if n < m then .lt else .gt)
  | .string s, .string t => some (stringCompare s t)
  | .guid (some g), .guid (some h) => some (memcmp (guidBytes g) (guidBytes h))
  | .byteString s, .byteString t => some (byteStringCompare s t)
  | _, _ => none

/-- `SOPC_NodeId_Compare`. -/
def nodeIdCompare (mem : Nat → NodeId) (left right : Nat) : Option Ordering :=
  let l := mem left
  let r := mem right
  if left = right then some .eq
  else if l.namespaceIndex = r.namespaceIndex ∧ identifierType l.data = identifierType r.data then
    identifierCompare l.data r.data
  else if identifierType l.data = identifierType r.data then
    some (if l.namespaceIndex < r.namespaceIndex then .lt else .gt)
  else
    some (if identifierType l.data < identifierType r.data then .lt else .gt)

/-- `SOPC_FNV1aHash_Step`. -/
def fnv1aHashStep (current : UInt64) (bytes : List UInt8) : UInt64 :=
  bytes.foldl (fun h b => (h ^^^ b.toUInt64) * 1099511628211) current

/-- `SOPC_FNV1aHash`. -/
def fnv1aHash (bytes : List UInt8) : UInt64 := fnv1aHashStep 14695981039346656037 bytes

/-- `SOPC_NodeId_Hash`. -/
def nodeIdHash (n : NodeId) : UInt64 :=
  let h := fnv1aHash (leBytes 4 (identifierType n.data))
  let h := fnv1aHashStep h (leBytes 2 n.namespaceIndex.toNat)
  match n.data with
  | .numeric v => fnv1aHashStep h (leBytes 4 v.toNat)
  | .string s => if 0 < s.length then fnv1aHashStep h s.data else h
  | .byteString s => if 0 < s.length then fnv1aHashStep h s.data else h
  | .guid none => h
  | .guid (some g) => fnv1aHashStep h (guidBytes g)

/-! ## The order as the order of a key -/

/-- What the order of strings looks at. -/
def stringKey (s : SopcString) : Nat × List UInt8 := (s.data.length, cString (s.data ++ [0]))

/-- What the order of byte strings looks at. -/
def byteStringKey (s : SopcString) : Nat × List UInt8 := (s.data.length, s.data)

/-- What the order of identifiers of one type looks at. -/
def identifierKey : Identifier → Nat × List UInt8
  | .numeric n => (n.toNat, [])
  | .string s => stringKey s
  | .guid none => (0, [])
  | .guid (some g) => (0, guidBytes g)
  | .byteString s => byteStringKey s

/-- The order of NodeIds: identifier type, then namespace, then identifier. -/
def orderCompare : NodeId → NodeId → Ordering :=
  compareLex (compareOn fun n => identifierType n.data)
    (compareLex (compareOn fun n => n.namespaceIndex.toNat)
      (compareLex (compareOn fun n => (identifierKey n.data).1)
        (compareOn fun n => (identifierKey n.data).2)))

/-- The two Guid identifiers of one namespace that cannot be compared: one is missing. -/
def guidMissing (l r : NodeId) : Bool :=
  l.namespaceIndex = r.namespaceIndex &&
    match l.data, r.data with
    | .guid none, .guid _ => true
    | .guid _, .guid none => true
    | _, _ => false

variable (s t : SopcString)

theorem stringCompare_eq :
    stringCompare s t =
      (compare (stringKey s).1 (stringKey t).1).then (compare (stringKey s).2 (stringKey t).2) := by
  have hs := s.wf
  have ht := t.wf
  unfold stringCompare
  split_ifs with hboth heq hgt
  · -- Two null or empty strings
    have hsd : s.data = [] := s.data_eq_nil_iff.mpr hboth.1
    have htd : t.data = [] := t.data_eq_nil_iff.mpr hboth.2
    simp [stringKey, hsd, htd]
  · have hlen : s.data.length = t.data.length := by rw [hs, ht, heq]
    simp [stringKey, hlen, strcmp]
  · have hlen : t.data.length < s.data.length := by
      simp only [le_iff_toInt_le, lt_iff_toInt_lt, toInt_zero] at hboth hgt
      omega
    simp [stringKey, Nat.compare_eq_gt.mpr hlen]
  · have hlen : s.data.length < t.data.length := by
      have hne : s.length.toInt ≠ t.length.toInt := fun h => heq (Int32.toInt_inj.mp h)
      simp only [le_iff_toInt_le, lt_iff_toInt_lt, toInt_zero] at hboth hgt
      omega
    simp [stringKey, Nat.compare_eq_lt.mpr hlen]

theorem stringEqual_iff : stringEqual s t = true ↔ stringKey s = stringKey t := by
  rw [stringEqual, decide_eq_true_iff, stringCompare_eq, Ordering.then_eq_eq, Prod.ext_iff]
  exact and_congr Std.LawfulEqCmp.compare_eq_iff_eq Std.LawfulEqCmp.compare_eq_iff_eq

theorem byteStringCompare_eq :
    byteStringCompare s t =
      (compare (byteStringKey s).1 (byteStringKey t).1).then
        (compare (byteStringKey s).2 (byteStringKey t).2) := by
  have hs := s.wf
  have ht := t.wf
  unfold byteStringCompare
  split_ifs with hsame hboth hgt
  · have hsd : s.data = [] := s.data_eq_nil_iff.mpr hboth.1
    have htd : t.data = [] := t.data_eq_nil_iff.mpr hboth.2
    simp [byteStringKey, hsd, htd]
  · have hlen : s.data.length = t.data.length := by
      rw [hs, ht, hsame.resolve_right hboth]
    simp [byteStringKey, hlen, memcmp]
  · have hlen : t.data.length < s.data.length := by
      simp only [le_iff_toInt_le, lt_iff_toInt_lt, toInt_zero] at hsame hgt
      omega
    simp [byteStringKey, Nat.compare_eq_gt.mpr hlen]
  · have hlen : s.data.length < t.data.length := by
      have hne : s.length.toInt ≠ t.length.toInt := fun h => hsame (.inl (Int32.toInt_inj.mp h))
      simp only [le_iff_toInt_le, lt_iff_toInt_lt, toInt_zero] at hsame hgt
      omega
    simp [byteStringKey, Nat.compare_eq_lt.mpr hlen]

variable {l r : NodeId}

/-- Two identifiers of one type compare as their keys, unless a Guid is missing. -/
theorem identifierCompare_eq (hns : l.namespaceIndex = r.namespaceIndex)
    (hty : identifierType l.data = identifierType r.data) :
    identifierCompare l.data r.data =
      if guidMissing l r then none
      else some ((compare (identifierKey l.data).1 (identifierKey r.data).1).then
        (compare (identifierKey l.data).2 (identifierKey r.data).2)) := by
  obtain ⟨nl, il⟩ := l
  obtain ⟨nr, ir⟩ := r
  subst hns
  cases il with
  | numeric n =>
    cases ir with
    | numeric m =>
      have hcmp : compare n.toNat m.toNat =
          if n = m then .eq else if n < m then .lt else .gt := by
        simp only [UInt32.lt_iff_toNat_lt, ← UInt32.toNat_inj, Nat.compare_eq_ite_lt]
        split_ifs <;> first | rfl | omega
      simp [identifierCompare, guidMissing, identifierKey, hcmp]
    | _ => simp [identifierType] at hty
  | string s =>
    cases ir with
    | string t => simp [identifierCompare, guidMissing, identifierKey, stringCompare_eq]
    | _ => simp [identifierType] at hty
  | guid g =>
    cases ir with
    | guid h =>
      rcases g with _ | g
      · simp [identifierCompare, guidMissing]
      cases h with
      | none => simp [identifierCompare, guidMissing]
      | some h => simp [identifierCompare, guidMissing, identifierKey, memcmp]
    | _ => simp [identifierType] at hty
  | byteString s =>
    cases ir with
    | byteString t =>
      simp [identifierCompare, guidMissing, identifierKey, byteStringCompare_eq]
    | _ => simp [identifierType] at hty

variable {a b : Nat}

variable (mem : Nat → NodeId)

/-- `SOPC_NodeId_Compare` at two addresses is the order of what they hold, unless a Guid
    is missing. -/
theorem nodeIdCompare_eq (hab : a ≠ b) :
    nodeIdCompare mem a b =
      if guidMissing (mem a) (mem b) then none else some (orderCompare (mem a) (mem b)) := by
  unfold nodeIdCompare orderCompare
  simp only [if_neg hab, compareLex, compareOn]
  by_cases hty : identifierType (mem a).data = identifierType (mem b).data
  · by_cases hns : (mem a).namespaceIndex = (mem b).namespaceIndex
    · rw [if_pos ⟨hns, hty⟩, identifierCompare_eq hns hty]
      simp [hns, hty]
    have hne : (mem a).namespaceIndex.toNat ≠ (mem b).namespaceIndex.toNat := fun h =>
      hns (UInt16.toNat_inj.mp h)
    have hmiss : guidMissing (mem a) (mem b) = false := by simp [guidMissing, hns]
    rw [if_neg (by simp [hns]), if_pos hty, hmiss, hty]
    by_cases hlt : (mem a).namespaceIndex.toNat < (mem b).namespaceIndex.toNat
    · simp [Nat.compare_eq_lt.mpr hlt, UInt16.lt_iff_toNat_lt.mpr hlt]
    · have hgt : (mem b).namespaceIndex.toNat < (mem a).namespaceIndex.toNat := by omega
      simp [Nat.compare_eq_gt.mpr hgt, UInt16.lt_iff_toNat_lt, hlt]
  · have hmiss : guidMissing (mem a) (mem b) = false := by
      unfold guidMissing
      cases hl : (mem a).data <;> cases hr : (mem b).data <;>
        simp [hl, hr, identifierType] at hty ⊢
    rw [if_neg (by simp [hty]), if_neg hty, hmiss]
    by_cases hlt : identifierType (mem a).data < identifierType (mem b).data
    · simp [Nat.compare_eq_lt.mpr hlt, hlt]
    · have hgt : identifierType (mem b).data < identifierType (mem a).data := by omega
      simp [Nat.compare_eq_gt.mpr hgt, hlt]

theorem nodeIdCompare_self (a : Nat) : nodeIdCompare mem a a = some .eq := by
  simp [nodeIdCompare]

/-- Equality is comparison to zero. -/
theorem nodeIdEqual_iff (a b : Nat) :
    nodeIdEqual mem a b = true ↔ nodeIdCompare mem a b = some .eq := by
  unfold nodeIdEqual nodeIdCompare
  by_cases hab : a = b
  · simp [hab]
  simp only [if_neg hab]
  by_cases hsame : (mem a).namespaceIndex = (mem b).namespaceIndex ∧
      identifierType (mem a).data = identifierType (mem b).data
  · rw [if_pos hsame, if_pos hsame]
    rcases (mem a).data with n | s | (_ | g) | s <;> rcases (mem b).data with m | t | (_ | h) | t
    · show decide (n = m) = true ↔
        some (if n = m then Ordering.eq else if n < m then .lt else .gt) = some .eq
      by_cases hnm : n = m
      · simp [hnm]
      · by_cases hlt : n < m <;> simp [hnm, hlt]
    all_goals simp [identifierCompare, stringEqual, byteStringEqual]
  · rw [if_neg hsame, if_neg hsame]
    split_ifs <;> simp

/-! ## The hash -/

/-- Multiplication by the prime is injective: the prime is odd. -/
theorem fnv1a_mul_injective {x y : UInt64}
    (h : x * 1099511628211 = y * 1099511628211) : x = y := by
  have hinv : (1099511628211 : UInt64) * 14886173955864302971 = 1 := by decide
  have hcancel : ∀ z : UInt64, z * 1099511628211 * 14886173955864302971 = z := by
    intro z
    rw [UInt64.mul_assoc, hinv, UInt64.mul_one]
  rw [← hcancel x, h, hcancel y]

theorem fnv1aHashStep_append (h : UInt64) (xs ys : List UInt8) :
    fnv1aHashStep h (xs ++ ys) = fnv1aHashStep (fnv1aHashStep h xs) ys := by
  simp [fnv1aHashStep, List.foldl_append]

/-- The hash tells two byte strings apart that differ in the last byte only. -/
theorem fnv1aHashStep_last_injective {h : UInt64} {xs : List UInt8} {x y : UInt8}
    (heq : fnv1aHashStep h (xs ++ [x]) = fnv1aHashStep h (xs ++ [y])) : x = y := by
  rw [fnv1aHashStep_append, fnv1aHashStep_append] at heq
  have hxor := fnv1a_mul_injective heq
  exact UInt8.toUInt64_inj.mp ((UInt64.xor_right_inj _).mp hxor)

/-- A string identifier that holds a zero before its last byte. -/
def hidesBytes (n : NodeId) : Bool :=
  match n.data with
  | .string s => s.data.dropLast.contains 0
  | _ => false

variable {s t : SopcString}

/-- Strings that compare equal are hashed over the same bytes, when the first hides none. -/
theorem stringEqual_data (hzero : s.data.dropLast.contains 0 = false) (h : stringEqual s t = true) :
    s.data = t.data ∧ (0 < s.length ↔ 0 < t.length) := by
  have hkey : stringKey s = stringKey t := (stringEqual_iff s t).1 h
  have hdata : s.data = t.data := by
    apply eq_of_cString_eq (congrArg Prod.fst hkey)
    · intro b hb hb0
      subst hb0
      simp [hb] at hzero
    · exact congrArg Prod.snd hkey
  exact ⟨hdata, by rw [s.length_pos_iff, t.length_pos_iff, hdata]⟩

theorem byteStringEqual_data (h : byteStringEqual s t = true) :
    s.data = t.data ∧ (0 < s.length ↔ 0 < t.length) := by
  have hdata : s.data = t.data := by
    simp only [byteStringEqual, decide_eq_true_eq, byteStringCompare_eq, Ordering.then_eq_eq] at h
    exact Std.LawfulEqCmp.compare_eq_iff_eq.mp h.2
  exact ⟨hdata, by rw [s.length_pos_iff, t.length_pos_iff, hdata]⟩

variable {mem : Nat → NodeId}

/-- Equal NodeIds hash equal, when the first hides no byte. -/
theorem nodeIdHash_eq (hides : hidesBytes (mem a) = false) (h : nodeIdEqual mem a b = true) :
    nodeIdHash (mem a) = nodeIdHash (mem b) := by
  unfold nodeIdEqual at h
  split at h
  · rename_i hab
    rw [hab]
  split at h
  · rename_i hsame
    unfold nodeIdHash
    rw [hsame.1, hsame.2]
    unfold hidesBytes at hides
    split at h
    · rename_i n m hl hr
      simp only [hl, hr]
      rw [of_decide_eq_true h]
    · rename_i s t hl hr
      simp only [hl] at hides
      obtain ⟨hdata, hpos⟩ := stringEqual_data hides h
      simp only [hl, hr, hdata, hpos]
    · rename_i g k hl hr
      simp only [hl, hr]
      rw [memcmp_eq_iff.mp (of_decide_eq_true h)]
    · rename_i s t hl hr
      obtain ⟨hdata, hpos⟩ := byteStringEqual_data h
      simp only [hl, hr, hdata, hpos]
    · cases h
  · cases h

/-! ## The laws of a dictionary key -/

/-- What three NodeIds must satisfy for equality, order and hash to agree. -/
structure KeyLaws (mem : Nat → NodeId) (a b c : Nat) : Prop where
  equal_iff : nodeIdEqual mem a b = true ↔ nodeIdCompare mem a b = some .eq
  hash_eq : nodeIdEqual mem a b = true → nodeIdHash (mem a) = nodeIdHash (mem b)
  antisymm : nodeIdCompare mem b a = (nodeIdCompare mem a b).map Ordering.swap
  trans : ∀ o o', nodeIdCompare mem a b = some o → nodeIdCompare mem b c = some o' →
    o.isLE = true → o'.isLE = true →
    ∃ o'', nodeIdCompare mem a c = some o'' ∧ o''.isLE = true

theorem orderCompare_swap (l r : NodeId) : orderCompare l r = (orderCompare r l).swap := by
  unfold orderCompare
  exact Std.OrientedCmp.eq_swap

variable {m : NodeId}

/-- The order looks at the identifier type first, then at the namespace. -/
theorem orderCompare_isLE_imp (h : (orderCompare l r).isLE = true) :
    identifierType l.data ≤ identifierType r.data ∧
      (identifierType l.data = identifierType r.data →
        l.namespaceIndex.toNat ≤ r.namespaceIndex.toNat) := by
  simp only [orderCompare, compareLex, compareOn, Ordering.isLE_then_iff_and, Nat.isLE_compare,
    Nat.compare_eq_lt] at h
  refine ⟨h.1, fun heq => ?_⟩
  rcases h.2 with hlt | hrest
  · omega
  · exact hrest.1

theorem guidMissing_comm (l r : NodeId) : guidMissing l r = guidMissing r l := by
  unfold guidMissing
  cases hl : l.data with
  | guid g =>
    cases hr : r.data with
    | guid h => cases g <;> cases h <;> simp [eq_comm]
    | _ => simp
  | _ => cases hr : r.data <;> simp

/-- A Guid missing between the ends of a chain is missing in one of its links. -/
theorem guidMissing_of_chain (hlm : (orderCompare l m).isLE = true)
    (hmr : (orderCompare m r).isLE = true) (hmiss : guidMissing l r = true) :
    guidMissing l m = true ∨ guidMissing m r = true := by
  have h1 := orderCompare_isLE_imp hlm
  have h2 := orderCompare_isLE_imp hmr
  simp only [guidMissing, Bool.and_eq_true, decide_eq_true_eq] at hmiss ⊢
  obtain ⟨hns, hguid⟩ := hmiss
  -- Both ends are Guids of one namespace, so the middle is one as well
  have htypes : identifierType l.data = 2 ∧ identifierType r.data = 2 := by
    cases hl : l.data <;> cases hr : r.data <;> simp [hl, hr, identifierType] at hguid ⊢
  have hty : identifierType m.data = 2 := by omega
  have hnsm : l.namespaceIndex = m.namespaceIndex := by
    have hle2 := h2.2 (by omega)
    apply UInt16.toNat_inj.mp
    rw [← hns] at hle2
    omega
  cases hm : m.data with
  | guid g =>
    cases hl : l.data <;> cases hr : r.data <;> simp [hl, hr] at hguid
    rename_i gl gr
    rcases g with _ | g
    · left
      cases gl <;> simp [hnsm]
    rcases gl with _ | gl
    · simp [hnsm]
    cases gr with
    | none => simp [← hns, hnsm]
    | some gr => simp at hguid
  | _ => simp [hm, identifierType] at hty

theorem nodeIdCompare_antisymm (mem : Nat → NodeId) (a b : Nat) :
    nodeIdCompare mem b a = (nodeIdCompare mem a b).map Ordering.swap := by
  by_cases hab : a = b
  · subst hab
    simp [nodeIdCompare_self]
  rw [nodeIdCompare_eq mem hab, nodeIdCompare_eq mem (Ne.symm hab), guidMissing_comm,
    orderCompare_swap (mem b) (mem a)]
  split <;> rfl

variable {o : Ordering}

/-- What a comparison says of the order and of missing Guids. -/
theorem nodeIdCompare_some (hab : a ≠ b) (h : nodeIdCompare mem a b = some o) :
    guidMissing (mem a) (mem b) = false ∧ orderCompare (mem a) (mem b) = o := by
  rw [nodeIdCompare_eq mem hab] at h
  split at h
  · cases h
  · rename_i hmiss
    exact ⟨Bool.of_not_eq_true hmiss, Option.some.inj h⟩

theorem nodeIdCompare_trans (mem : Nat → NodeId) (a b c : Nat) {o' : Ordering}
    (hab : nodeIdCompare mem a b = some o) (hbc : nodeIdCompare mem b c = some o')
    (ho : o.isLE = true) (ho' : o'.isLE = true) :
    ∃ o'', nodeIdCompare mem a c = some o'' ∧ o''.isLE = true := by
  by_cases h1 : a = b
  · subst h1
    exact ⟨o', hbc, ho'⟩
  by_cases h2 : b = c
  · subst h2
    exact ⟨o, hab, ho⟩
  by_cases h3 : a = c
  · subst h3
    exact ⟨.eq, nodeIdCompare_self mem a, rfl⟩
  obtain ⟨hmab, rfl⟩ := nodeIdCompare_some h1 hab
  obtain ⟨hmbc, rfl⟩ := nodeIdCompare_some h2 hbc
  have hmac : guidMissing (mem a) (mem c) = false := by
    by_contra hmiss
    rcases guidMissing_of_chain ho ho' (Bool.of_not_eq_false hmiss) with h | h
    · rw [hmab] at h
      cases h
    · rw [hmbc] at h
      cases h
  unfold orderCompare at ho ho'
  refine ⟨orderCompare (mem a) (mem c), ?_, by unfold orderCompare; exact Std.TransCmp.isLE_trans ho ho'⟩
  rw [nodeIdCompare_eq mem h3, hmac]
  rfl

/-- Equality, order and hash agree on a NodeId and any two others exactly when it hides no
    byte of a string identifier behind a zero. -/
theorem nodeId_keyLaws_iff (n : NodeId) :
    (∀ mem a b c, mem a = n → KeyLaws mem a b c) ↔ hidesBytes n = false := by
  constructor
  · intro hlaws
    by_contra hides
    -- The identifier ends with a byte that `strcmp` does not reach
    obtain ⟨ns, id⟩ := n
    cases id with
    | string s =>
      have hmem : (0 : UInt8) ∈ s.data.dropLast := by simpa [hidesBytes] using hides
      have hne : s.data ≠ [] := by
        intro hnil
        simp [hnil] at hmem
      have hsplit := List.dropLast_append_getLast hne
      -- The same identifier with another last byte
      let t : SopcString :=
        ⟨s.length, s.data.dropLast ++ [s.data.getLast hne + 1], by
          rw [← s.wf]
          conv_rhs => rw [← hsplit]
          simp⟩
      let mem : Nat → NodeId := fun p => if p = 0 then ⟨ns, .string s⟩ else ⟨ns, .string t⟩
      have hcmp : stringCompare s t = .eq := by
        unfold stringCompare
        split_ifs with hboth heq hgt
        · rfl
        · rw [strcmp_eq_iff]
          conv_lhs => rw [← hsplit]
          rw [List.append_assoc, List.append_assoc, cString_append_of_mem hmem,
            cString_append_of_mem hmem]
        · exact absurd rfl heq
        · exact absurd rfl heq
      have hequal : nodeIdEqual mem 0 1 = true := by
        simp [nodeIdEqual, mem, identifierType, stringEqual, hcmp]
      have hhash := (hlaws mem 0 1 1 rfl).hash_eq hequal
      have hpos : 0 < s.length := s.length_pos_iff.mpr hne
      simp only [nodeIdHash, mem, if_true, one_ne_zero, if_false, t, hpos] at hhash
      conv at hhash => lhs; rw [← hsplit]
      have hlast := fnv1aHashStep_last_injective hhash
      simp at hlast
    | _ => simp [hidesBytes] at hides
  · intro hides mem a b c ha
    subst ha
    exact {
      equal_iff := nodeIdEqual_iff mem a b
      hash_eq := nodeIdHash_eq hides
      antisymm := nodeIdCompare_antisymm mem a b
      trans := fun _ _ hab hbc => nodeIdCompare_trans mem a b c hab hbc }

/-- Two string identifiers of three bytes that differ after an embedded zero: equal, and
    hashed apart. -/
theorem nodeId_equal_with_different_hashes :
    let a : NodeId := ⟨1, .string (.ofBytes [120, 0, 121] (by decide))⟩
    let b : NodeId := ⟨1, .string (.ofBytes [120, 0, 122] (by decide))⟩
    let mem : Nat → NodeId := fun p => if p = 0 then a else b
    nodeIdEqual mem 0 1 = true ∧ nodeIdHash a ≠ nodeIdHash b := by
  decide

end S2opc.BuiltinTypes
