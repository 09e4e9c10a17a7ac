/-
The absolute deadband of the data change filters.

A change is reported if one of the elements of the new value is further from
the cached one than the deadband.  The difference of two integers is computed
on 64 bits, signed or not, and converted to a double.  Only the difference of
two values of type Int64 may be out of range: C leaves its value undefined.
-/
import S2opc.BuiltinTypes.Compare

namespace S2opc.SubscriptionCore.Deadband

open BuiltinTypes

variable {Obj : Type}

/-! ## The difference of two values -/

/-- The conversion of an integer to a double: the 53 first bits are kept, and the other ones are
    rounded to the nearest value, which is the even one of two values that are as near. -/
def toDouble (n : Nat) : Nat :=
  let scale := 2 ^ (n.log2 - 52)
  let kept := n / scale
  let lost := n % scale
  (if scale < 2 * lost ∨ (scale = 2 * lost ∧ kept % 2 = 1) then kept + 1 else kept) * scale

/-- The subtraction of two values of type `int64_t`, where `overflow` is what the program computes
    if the result is out of range. -/
def int64Difference (overflow : Int → Int → Int) (left right : Int) : Int :=
  if -2 ^ 63 ≤ left - right ∧ left - right < 2 ^ 63 then left - right else overflow left right

/-- `COMPARE_DEADBAND_ABSOLUTE_NUMERIC_VALUE` and the comparison with the deadband. -/
def numericCompare (deadband : Nat) (difference : Int → Int → Int) (left right : Int) : Ordering :=
  if right < left then
    if deadband < toDouble (difference left right).natAbs then .gt else .eq
  else if left < right then
    if deadband < toDouble (difference right left).natAbs then .lt else .eq
  else .eq

section Compare

variable (overflow : Int → Int → Int)
    (floating : {id : BuiltinId} → FlatValue Obj id → FlatValue Obj id → Ordering) (deadband : Nat)

/-- `compare_deadband_absolute`, for a deadband that is an integer.  The comparison of
    floating-point values is left to `floating`. -/
def compareDeadbandAbsolute {id : BuiltinId} :
    Builtin Obj id → Builtin Obj id → Except Status Ordering
  | .flat (.byte l), .flat (.byte r) => .ok (numericCompare deadband (· - ·) l.toNat r.toNat)
  | .flat (.uint16 l), .flat (.uint16 r) => .ok (numericCompare deadband (· - ·) l.toNat r.toNat)
  | .flat (.uint32 l), .flat (.uint32 r) => .ok (numericCompare deadband (· - ·) l.toNat r.toNat)
  | .flat (.uint64 l), .flat (.uint64 r) => .ok (numericCompare deadband (· - ·) l.toNat r.toNat)
  | .flat (.sByte l), .flat (.sByte r) =>
    .ok (numericCompare deadband (int64Difference overflow) l.toInt r.toInt)
  | .flat (.int16 l), .flat (.int16 r) =>
    .ok (numericCompare deadband (int64Difference overflow) l.toInt r.toInt)
  | .flat (.int32 l), .flat (.int32 r) =>
    .ok (numericCompare deadband (int64Difference overflow) l.toInt r.toInt)
  | .flat (.int64 l), .flat (.int64 r) =>
    .ok (numericCompare deadband (int64Difference overflow) l.toInt r.toInt)
  | .flat (.float l), .flat (.float r) => .ok (floating (.float l) (.float r))
  | .flat (.double l), .flat (.double r) => .ok (floating (.double l) (.double r))
  | _, _ => .error .invalidParameters

end Compare

/-- `SOPC_Variant_CompareCustom`. -/
def variantCompareCustom
    (compCustom : {id : BuiltinId} → Builtin Obj id → Builtin Obj id → Except Status Ordering) :
    Variant Obj → Variant Obj → Except Status Ordering
  | .null, .null => .ok .eq
  | @Variant.single _ i l, @Variant.single _ j r =>
    if h : i = j then
      if i = .variant then .error .notSupported else compCustom l (h ▸ r)
    else .ok (numberCompare i.code j.code)
  | .array i length l, .array j length' r =>
    if h : i = j then
      if hlength : length = length' then
        contentCompare i (0 ≤ length)
          (compareEach _ fun k => compCustom (l k) (h ▸ r (k.cast (toNat_congr hlength))))
      else .ok (numberCompare length length')
    else .ok (numberCompare i.code j.code)
  | .matrix i dimensions dims l, .matrix j dimensions' dims' r =>
    if h : i = j then
      if dimensions = dimensions' then
        thenCompare (dimensionsCompare _ _ dims dims' 1) <|
          if hlength : matrixLength dimensions dims = matrixLength dimensions' dims' then
            contentCompare i (dimensions ≠ 0)
              (compareEach _ fun k => compCustom (l k) (h ▸ r (k.cast hlength)))
          else .error .undefinedBehaviour
      else .ok (numberCompare dimensions dimensions')
    else .ok (numberCompare i.code j.code)
  | l, r => .ok (typesCompare l r)

/-! ## The trigger of a notification -/

/-- `OpcUa_DataChangeTrigger`. -/
inductive DataChangeTrigger where
  | status
  | statusValue
  | statusValueTimestamp
  deriving DecidableEq, Repr

/-- `OpcUa_DeadbandType`. -/
inductive DeadbandType where
  | none
  | absolute
  | percent
  deriving DecidableEq, Repr

/-- The data filter of a monitored item, whose deadband is `filterAbsoluteDeadbandContext`. -/
structure DataFilter (Obj : Type) where
  trigger : DataChangeTrigger
  deadbandType : DeadbandType
  deadband : Nat
  lastCachedValue : Option (Variant Obj)

section Trigger

variable (overflow : Int → Int → Int)
  (floating : {id : BuiltinId} → FlatValue Obj id → FlatValue Obj id → Ordering)
  (unfiltered : Variant Obj → Variant Obj → Except Status Ordering)
  (filter : Option (DataFilter Obj))

/-- `compare_monitored_item_values` for an item without an index range.  The comparison without a
    deadband is left to `unfiltered`. -/
def compareMonitoredItemValues (old new : Variant Obj) :
    Except Status Ordering :=
  match filter with
  | some filter =>
    if filter.deadbandType ≠ .none then
      variantCompareCustom (compareDeadbandAbsolute overflow floating filter.deadband) old new
    else unfiltered old new
  | none => unfiltered old new

/-- `monitored_item_get_last_cached_value`. -/
def lastCachedValue (filter : Option (DataFilter Obj)) (old : Variant Obj) : Variant Obj :=
  match filter with
  | some filter => if filter.deadbandType ≠ .none then filter.lastCachedValue.getD old else old
  | none => old

/-- `monitored_item_update_last_cached_value`, for a copy that succeeds. -/
def updateLastCachedValue (value : Variant Obj) :
    Option (DataFilter Obj) :=
  filter.map fun filter =>
    if filter.deadbandType ≠ .none then { filter with lastCachedValue := some value } else filter

/-- `is_notification_triggered` for the attribute `aid` of a monitored item and the attribute that
    is written, with the filter that is left. -/
def isNotificationTriggered (aid attributeId : UInt32) :
    DataValue Obj → DataValue Obj → Bool × Option (DataFilter Obj)
  | .mk old status source _ sourcePico _, .mk new status' source' _ sourcePico' _ =>
    if aid ≠ 0 ∧ attributeId = aid then
      let compared : Except Status Ordering :=
        if status = status' then
          if filter.any (fun f => f.trigger = .statusValueTimestamp ∧ f.deadbandType = .none) ∧
              (source ≠ source' ∨ sourcePico ≠ sourcePico') then .ok .lt
          else if filter.all (fun f => f.trigger ≠ .status) then
            compareMonitoredItemValues overflow floating unfiltered filter
              (lastCachedValue filter old) new
          else .ok .eq
        else .ok .lt
      match compared with
      | .ok .eq => (false, filter)
      | .ok _ => (true, updateLastCachedValue filter new)
      | .error _ => (false, filter)
    else (false, filter)

end Trigger

/-! ## The values as integers -/

/-- The value of an integer of 8 to 64 bits. -/
def integer {id : BuiltinId} : Builtin Obj id → Option Int
  | .flat (.byte v) => some v.toNat
  | .flat (.uint16 v) => some v.toNat
  | .flat (.uint32 v) => some v.toNat
  | .flat (.uint64 v) => some v.toNat
  | .flat (.sByte v) => some v.toInt
  | .flat (.int16 v) => some v.toInt
  | .flat (.int32 v) => some v.toInt
  | .flat (.int64 v) => some v.toInt
  | _ => none

/-- The number of values of a scalar, or of an array with its length. -/
def size (shape : Option Int32) : Nat := shape.elim 1 fun length => length.toInt.toNat

/-- A variant holds the integers `values`, as a scalar or as an array. -/
def HoldsIntegers (v : Variant Obj) (id : BuiltinId) :
    (shape : Option Int32) → (Fin (size shape) → Int) → Prop
  | none, values => ∃ w : Builtin Obj id, v = .single w ∧ integer w = some (values (0 : Fin 1))
  | some length, values =>
    ∃ content, v = .array id length content ∧ ∀ k, integer (content k) = some (values k)

/-- The subtraction that is used for a type. -/
def differenceOf (overflow : Int → Int → Int) : BuiltinId → Int → Int → Int
  | .byte | .uint16 | .uint32 | .uint64 => (· - ·)
  | _ => int64Difference overflow

variable {id : BuiltinId} {l r : Builtin Obj id} {x y : Int} {deadband : Nat}
    {overflow : Int → Int → Int}
    {floating : {id : BuiltinId} → FlatValue Obj id → FlatValue Obj id → Ordering}

theorem compareDeadbandAbsolute_integer (hl : integer l = some x) (hr : integer r = some y) :
    compareDeadbandAbsolute overflow floating deadband l r =
      .ok (numericCompare deadband (differenceOf overflow id) x y) := by
  cases l with
  | flat l =>
    cases r with
    | flat r =>
      cases l <;> cases hl <;> cases r <;> cases hr <;> rfl
    | _ => cases hr
  | _ => cases hl

/-- The types of integers are not those that the comparison of variants refuses. -/
theorem ne_of_integer (hl : integer l = some x) : id ≠ .null ∧ id ≠ .variant := by
  cases l with
  | flat l => cases l <;> cases hl <;> decide
  | _ => cases hl

theorem int64Difference_eq (h : (x - y).natAbs < 2 ^ 63) :
    int64Difference overflow x y = x - y :=
  if_pos (by omega)

/-- Only the difference of two values of type Int64 may be out of range. -/
theorem differenceOf_eq (hl : integer l = some x) (hr : integer r = some y)
    (h : id = .int64 → (x - y).natAbs < 2 ^ 63) : differenceOf overflow id x y = x - y := by
  cases l with
  | flat l =>
    cases r with
    | flat r =>
      cases l <;> cases hl <;> cases r <;> cases hr
      case sByte.refl.sByte.refl v w =>
        have := v.le_toInt; have := v.toInt_lt; have := w.le_toInt; have := w.toInt_lt
        exact int64Difference_eq (by omega)
      case int16.refl.int16.refl v w =>
        have := v.le_toInt; have := v.toInt_lt; have := w.le_toInt; have := w.toInt_lt
        exact int64Difference_eq (by omega)
      case int32.refl.int32.refl v w =>
        have := v.le_toInt; have := v.toInt_lt; have := w.le_toInt; have := w.toInt_lt
        exact int64Difference_eq (by omega)
      case int64.refl.int64.refl v w => exact int64Difference_eq (h rfl)
      all_goals rfl
    | _ => cases hr
  | _ => cases hl

/-! ## The comparison with the deadband -/

/-- The conversion to a double keeps the order with the integers below 2 ^ 31. -/
theorem lt_toDouble_iff (h : deadband < 2 ^ 31) (n : Nat) : deadband < toDouble n ↔ deadband < n := by
  by_cases hsmall : n.log2 ≤ 52
  · -- The integer has at most 53 bits
    have hexact : toDouble n = n := by
      unfold toDouble
      rw [Nat.sub_eq_zero_of_le hsmall]
      simp [Nat.mod_one]
    rw [hexact]
  have hn : n ≠ 0 := by
    rintro rfl
    simp at hsmall
  have hpow : 2 ^ 52 * 2 ^ (n.log2 - 52) ≤ n := by
    have := Nat.log2_self_le hn
    rwa [← pow_add, Nat.add_sub_cancel' (by omega)]
  have hscale : 1 ≤ 2 ^ (n.log2 - 52) := Nat.one_le_two_pow
  have hkept : 2 ^ 52 ≤ n / 2 ^ (n.log2 - 52) := (Nat.le_div_iff_mul_le (by omega)).2 hpow
  have hdouble : n / 2 ^ (n.log2 - 52) * 2 ^ (n.log2 - 52) ≤ toDouble n := by
    apply Nat.mul_le_mul_right
    split_ifs <;> omega
  have hlarge : 2 ^ 52 * 1 ≤ toDouble n := (Nat.mul_le_mul hkept hscale).trans hdouble
  exact iff_of_true (by omega) (by omega)

/-- A difference that is out of range and taken as zero is not seen. -/
theorem numericCompare_overflow (h : 2 ^ 63 ≤ (x - y).natAbs) :
    numericCompare deadband (int64Difference fun _ _ => 0) x y = .eq := by
  have hzero : toDouble 0 = 0 := rfl
  unfold numericCompare
  split_ifs with hlt hdouble hgt hdouble
  · rw [int64Difference, if_neg (by omega), Int.natAbs_zero, hzero] at hdouble
    omega
  · rfl
  · rw [int64Difference, if_neg (by omega), Int.natAbs_zero, hzero] at hdouble
    omega
  · rfl
  · rfl

theorem compareEach_ok {n : Nat} (f : Fin n → Ordering) :
    ∃ o, compareEach n (fun i => .ok (f i)) = .ok o := by
  induction n with
  | zero => exact ⟨.eq, rfl⟩
  | succ n ih =>
    rw [compareEach]
    cases f 0 with
    | eq => exact ih fun i => f i.succ
    | _ => exact ⟨_, rfl⟩

variable {shape : Option Int32}

/-- Variants of integers are compared element by element. -/
theorem variantCompareCustom_ne_eq_iff
    {compCustom : {id : BuiltinId} → Builtin Obj id → Builtin Obj id → Except Status Ordering}
    {c : Int → Int → Ordering}
    (hcomp : ∀ (l r : Builtin Obj id) (x y : Int), integer l = some x → integer r = some y →
      compCustom l r = .ok (c x y)) {last new : Variant Obj} {xs ys : Fin (size shape) → Int}
    (hlast : HoldsIntegers last id shape xs) (hnew : HoldsIntegers new id shape ys) :
    (∃ o, o ≠ .eq ∧ variantCompareCustom compCustom last new = .ok o) ↔
      ∃ i, c (xs i) (ys i) ≠ .eq := by
  cases shape with
  | none =>
    obtain ⟨l, rfl, hl⟩ := hlast
    obtain ⟨r, rfl, hr⟩ := hnew
    rw [variantCompareCustom, dif_pos rfl, if_neg (ne_of_integer hl).2, hcomp l r _ _ hl hr]
    constructor
    · rintro ⟨o, hne, ho⟩
      cases ho
      exact ⟨(0 : Fin 1), hne⟩
    · rintro ⟨i, hne⟩
      obtain rfl : i = (0 : Fin 1) := Fin.fin_one_eq_zero i
      exact ⟨_, hne, rfl⟩
  | some length =>
    obtain ⟨l, rfl, hl⟩ := hlast
    obtain ⟨r, rfl, hr⟩ := hnew
    rw [variantCompareCustom, dif_pos rfl, dif_pos rfl]
    have heach : (fun k => compCustom (l k) (r (k.cast rfl))) =
        fun k => .ok (c (xs k) (ys k)) := funext fun k => hcomp _ _ _ _ (hl k) (hr k)
    change (∃ o, o ≠ .eq ∧ contentCompare id (0 ≤ length)
      (compareEach _ fun k => compCustom (l k) (r (k.cast rfl))) = .ok o) ↔ _
    rw [heach]
    obtain ⟨o, ho⟩ := compareEach_ok fun k : Fin (size (some length)) => c (xs k) (ys k)
    have hall : o = .eq ↔ ∀ k, c (xs k) (ys k) = .eq := by
      have := compareEach_eq_iff (f := fun k : Fin (size (some length)) => .ok (c (xs k) (ys k)))
      rw [ho] at this
      simpa using this
    constructor
    · rintro ⟨o', hne, ho'⟩
      unfold contentCompare at ho'
      split_ifs at ho'
      cases ho.symm.trans ho'
      by_contra hnone
      exact hne (hall.2 (by simpa using hnone))
    · rintro ⟨i, hne⟩
      -- The array has an element, hence a content of a type of integers
      have hpos : 0 ≤ length := by
        have := Int32.le_iff_toInt_le (x := 0) (y := length)
        have hlt : i.val < length.toInt.toNat := i.isLt
        rw [this]
        show (0 : Int) ≤ _
        omega
      refine ⟨o, fun heq => hne (hall.1 heq i), ?_⟩
      rw [contentCompare, if_neg (ne_of_integer (hl i)).1, if_pos (by simpa using hpos)]
      exact ho

/-! ## The changes that are reported -/

theorem HoldsIntegers.element {v : Variant Obj} {values : Fin (size shape) → Int}
    (h : HoldsIntegers v id shape values) (i : Fin (size shape)) :
    ∃ w : Builtin Obj id, integer w = some (values i) := by
  rcases shape with _ | length
  · obtain ⟨w, -, hw⟩ := h
    obtain rfl : i = (0 : Fin 1) := Fin.fin_one_eq_zero i
    exact ⟨w, hw⟩
  obtain ⟨content, -, hcontent⟩ := h
  exact ⟨content i, hcontent i⟩

section Reported

variable (floating : {id : BuiltinId} → FlatValue Obj id → FlatValue Obj id → Ordering)
    (unfiltered : Variant Obj → Variant Obj → Except Status Ordering) (filter : DataFilter Obj)
    (htrigger : filter.trigger = .statusValue) (htype : filter.deadbandType = .absolute)
    {aid : UInt32} (haid : aid ≠ 0) {old new : Variant Obj} (status : UInt32)
    (source server source' server' : Int64) (sourcePico serverPico sourcePico' serverPico' : UInt16)

include htrigger htype haid in
theorem isNotificationTriggered_iff :
    (isNotificationTriggered overflow floating unfiltered (some filter) aid aid
      (.mk old status source server sourcePico serverPico)
      (.mk new status source' server' sourcePico' serverPico')).1 = true ↔
    ∃ o, o ≠ .eq ∧ variantCompareCustom (compareDeadbandAbsolute overflow floating filter.deadband)
      (filter.lastCachedValue.getD old) new = .ok o := by
  obtain ⟨trigger, deadbandType, deadband, cached⟩ := filter
  obtain rfl : trigger = .statusValue := htrigger
  obtain rfl : deadbandType = .absolute := htype
  unfold isNotificationTriggered
  dsimp only
  rw [if_pos ⟨haid, rfl⟩, if_pos rfl, if_neg (by simp), if_pos (by simp)]
  have hcompared : compareMonitoredItemValues overflow floating unfiltered
      (some ⟨.statusValue, .absolute, deadband, cached⟩)
      (lastCachedValue (some ⟨.statusValue, .absolute, deadband, cached⟩) old) new =
      variantCompareCustom (compareDeadbandAbsolute overflow floating deadband)
        (cached.getD old) new := rfl
  rw [hcompared]
  generalize variantCompareCustom (compareDeadbandAbsolute overflow floating deadband)
    (cached.getD old) new = compared
  match compared with
  | .ok .lt | .ok .eq | .ok .gt | .error _ => simp

include htrigger htype haid in
/-- With an absolute deadband, a change is reported exactly if an element differs by more than the
    deadband, whatever the difference of two values of type Int64 that is out of range is computed
    to be, if and only if such a difference comes with one that is above the deadband and in range. -/
theorem absolute_deadband_reports_iff (hdeadband : filter.deadband < 2 ^ 31)
    {id : BuiltinId} {shape : Option Int32} {xs ys : Fin (size shape) → Int}
    (hlast : HoldsIntegers (filter.lastCachedValue.getD old) id shape xs)
    (hnew : HoldsIntegers new id shape ys) :
    (∀ overflow, (isNotificationTriggered overflow floating unfiltered (some filter) aid aid
        (.mk old status source server sourcePico serverPico)
        (.mk new status source' server' sourcePico' serverPico')).1 = true ↔
      ∃ i, filter.deadband < (xs i - ys i).natAbs) ↔
    (id = .int64 → (∃ i, 2 ^ 63 ≤ (xs i - ys i).natAbs) →
      ∃ i, filter.deadband < (xs i - ys i).natAbs ∧ (xs i - ys i).natAbs < 2 ^ 63) := by
  have hreported : ∀ overflow, (isNotificationTriggered overflow floating unfiltered (some filter)
      aid aid (.mk old status source server sourcePico serverPico)
      (.mk new status source' server' sourcePico' serverPico')).1 = true ↔
      ∃ i, numericCompare filter.deadband (differenceOf overflow id) (xs i) (ys i) ≠ .eq := by
    intro overflow
    exact (isNotificationTriggered_iff floating unfiltered filter htrigger htype haid status source
      server source' server' sourcePico serverPico sourcePico' serverPico').trans
      (variantCompareCustom_ne_eq_iff (fun _ _ _ _ => compareDeadbandAbsolute_integer) hlast hnew)
  have hexact : ∀ overflow i, (id = .int64 → (xs i - ys i).natAbs < 2 ^ 63) →
      (numericCompare filter.deadband (differenceOf overflow id) (xs i) (ys i) ≠ .eq ↔
        filter.deadband < (xs i - ys i).natAbs) := by
    intro overflow i hrange
    obtain ⟨l, hl⟩ := hlast.element i
    obtain ⟨r, hr⟩ := hnew.element i
    have hback : id = .int64 → (ys i - xs i).natAbs < 2 ^ 63 := fun hid => by
      have := hrange hid
      omega
    unfold numericCompare
    simp only [differenceOf_eq hl hr hrange, differenceOf_eq hr hl hback, lt_toDouble_iff hdeadband]
    split_ifs <;> simp <;> omega
  simp only [hreported]
  constructor
  · rintro hall rfl ⟨i, hi⟩
    -- The difference that is out of range may be computed as zero
    obtain ⟨j, hj⟩ := (hall fun _ _ => 0).2 ⟨i, by omega⟩
    have hrange : (xs j - ys j).natAbs < 2 ^ 63 := by
      by_contra hout
      exact hj (numericCompare_overflow (by omega))
    exact ⟨j, (hexact _ j fun _ => hrange).1 hj, hrange⟩
  · intro hcond overflow
    constructor
    · rintro ⟨i, hi⟩
      by_cases hrange : id = .int64 → (xs i - ys i).natAbs < 2 ^ 63
      · exact ⟨i, (hexact overflow i hrange).1 hi⟩
      · exact ⟨i, by omega⟩
    · rintro ⟨i, hi⟩
      by_cases hrange : id = .int64 → (xs i - ys i).natAbs < 2 ^ 63
      · exact ⟨i, (hexact overflow i hrange).2 hi⟩
      obtain ⟨hid, hout⟩ := Classical.not_imp.1 hrange
      obtain ⟨j, hj, hjrange⟩ := hcond hid ⟨i, by omega⟩
      exact ⟨j, (hexact overflow j fun _ => hjrange).2 hj⟩

end Reported

/-- An array of type UInt64, whose differences are all in range. -/
theorem absolute_deadband_reports_uint64 :
    (isNotificationTriggered (fun _ _ => 0) (fun _ _ => .eq) (fun _ _ => .ok .eq)
      (some (⟨.statusValue, .absolute, 5, none⟩ : DataFilter Nat)) 13 13
      (.mk (.array .uint64 1 fun _ => .flat (.uint64 18446744073709551615)) 0 0 0 0 0)
      (.mk (.array .uint64 1 fun _ => .flat (.uint64 0)) 0 0 0 0 0)).1 = true := by
  have hreports := absolute_deadband_reports_iff (fun _ _ => .eq) (fun _ _ => .ok .eq)
    (⟨.statusValue, .absolute, 5, none⟩ : DataFilter Nat) rfl rfl (show (13 : UInt32) ≠ 0 by decide)
    0 0 0 0 0 0 0 0 0 (show 5 < 2 ^ 31 by decide)
    (show HoldsIntegers (.array .uint64 1 fun _ => .flat (.uint64 18446744073709551615)) .uint64
      (some 1) (fun _ => 18446744073709551615) from ⟨_, rfl, fun _ => rfl⟩)
    (show HoldsIntegers (.array .uint64 1 fun _ => .flat (.uint64 0)) .uint64
      (some 1) (fun _ => 0) from ⟨_, rfl, fun _ => rfl⟩)
  exact (hreports.2 (fun hid => nomatch hid) fun _ _ => 0).2 ⟨(0 : Fin 1), by decide⟩

/-- The difference of the two ends of the range of Int64 is computed as -1 on 64 bits: it is not
    reported with a deadband of 1. -/
theorem int64_ends_are_not_reported :
    (isNotificationTriggered (fun l r => (l - r).bmod (2 ^ 64)) (fun _ _ => .eq)
      (fun _ _ => .ok .eq) (some (⟨.statusValue, .absolute, 1, none⟩ : DataFilter Nat)) 13 13
      (.mk (.single (.flat (.int64 Int64.maxValue))) 0 0 0 0 0)
      (.mk (.single (.flat (.int64 Int64.minValue))) 0 0 0 0 0)).1 = false ∧
    1 < (Int64.maxValue.toInt - Int64.minValue.toInt).natAbs := by
  decide

end S2opc.SubscriptionCore.Deadband
