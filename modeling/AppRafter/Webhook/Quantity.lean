import AppRafter.Lib.Binary64
import AppRafter.Lib.Decimal
import AppRafter.Webhook.Scope

set_option autoImplicit false

namespace AppRafter.Webhook

open Lib List Option

def splitUnit (chars : List Char) : List Char × List Char :=
  (chars.takeWhile fun c => !c.isAlpha, chars.dropWhile fun c => !c.isAlpha)

def quantityUnits : List (String × Decimal) :=
  [("", { digits := 1 }), ("m", { digits := 1, scale := 3 }), ("k", { digits := 1000 }), ("M", { digits := 1000000 }),
    ("G", { digits := 1000000000 }), ("T", { digits := 1000000000000 }), ("P", { digits := 1000000000000000 }),
    ("Ki", { digits := 1024 }), ("Mi", { digits := 1048576 }), ("Gi", { digits := 1073741824 }),
    ("Ti", { digits := 1099511627776 }), ("Pi", { digits := 1125899906842624 })]

def quantityParts (units : List (String × Decimal)) (q : String) : Option (Decimal × Decimal) :=
  let parts := splitUnit (Text.trim q).toList
  (Decimal.parse parts.1).bind fun n =>
    (units.find? fun unit => unit.1 == String.ofList parts.2).map fun unit => (n, unit.2)

def quantityToF64 (q : String) : Option Float :=
  if (Text.trim q).toList.isEmpty then none
  else (quantityParts quantityUnits q).map fun parts => parts.1.float * parts.2.float

variable (req limit : String)

def quantityLe : Bool :=
  match quantityToF64 req, quantityToF64 limit with
  | some r, some l => decide (r ≤ l)
  | _, _ => true

def isResourceQuantity (s : String) : Bool :=
  isK8sQuantity s ||
    (!(Text.endsWith (Text.trim s) "." || Text.startsWith (Text.trim s) "-") &&
      (quantityToF64 s).any fun v => decide (Float.ofNat 0 ≤ v))

-- Kubernetes' own units: quantity_to_f64 leaves out the last two.
def kubernetesUnits : List (String × Decimal) :=
  [("", { digits := 1 }), ("m", { digits := 1, scale := 3 }), ("k", { digits := 10 ^ 3 }), ("M", { digits := 10 ^ 6 }),
    ("G", { digits := 10 ^ 9 }), ("T", { digits := 10 ^ 12 }), ("P", { digits := 10 ^ 15 }), ("Ki", { digits := 1024 }),
    ("Mi", { digits := 1024 ^ 2 }), ("Gi", { digits := 1024 ^ 3 }), ("Ti", { digits := 1024 ^ 4 }),
    ("Pi", { digits := 1024 ^ 5 }), ("E", { digits := 10 ^ 18 }), ("Ei", { digits := 1024 ^ 6 })]

def quantityValue (q : String) : Option Rat := (quantityParts kubernetesUnits q).map fun parts => parts.1.value * parts.2.value

def Fits : Prop := ∃ r l, quantityValue req = some r ∧ quantityValue limit = some l ∧ r ≤ l

def Exceeds : Prop := ∃ r l, quantityValue req = some r ∧ quantityValue limit = some l ∧ l < r

-- A numeral and a unit that a binary64 holds to within a few units in its last place.
def Short (q : String) (v : Rat) : Prop :=
  ∃ n unit, quantityParts kubernetesUnits q = some (n, unit) ∧ v = n.value * unit.value ∧
  n.negative = false ∧ n.digits < 2 ^ 53 ∧ n.scale ≤ 22 ∧ unit.digits < 10 ^ 18

-- No higher than the limit, as far as a comparison of rounded numbers can tell.
def Blurred : Prop := ∀ r l, Short req r → Short limit l → r ≤ l * (1 + 1 / 2 ^ 48)

theorem fits_or_exceeds {req limit : String} (reads : (quantityValue req).isSome = true)
    (bounds : (quantityValue limit).isSome = true) : Fits req limit ↔ ¬Exceeds req limit := by
  obtain ⟨r, first⟩ := isSome_iff_exists.mp reads
  obtain ⟨l, second⟩ := isSome_iff_exists.mp bounds
  constructor
  · rintro ⟨x, y, req, limit, fits⟩ ⟨x', y', req', limit', exceeds⟩
    rw [req] at req'
    rw [limit] at limit'
    cases req'
    cases limit'
    exact absurd fits (Rat.not_le.mpr exceeds)
  · intro within
    refine ⟨r, l, first, second, ?_⟩
    by_contra above
    exact within ⟨r, l, first, second, Rat.not_le.mp above⟩

theorem unit_known {units : List (String × Decimal)} {name : String} (known : name ∈ units.map Prod.fst) :
    ∃ unit, (units.find? fun unit => unit.1 == name) = some unit := by
  obtain ⟨unit, member, rfl⟩ := mem_map.mp known
  apply isSome_iff_exists.mp
  rw [find?_isSome]
  exact ⟨unit, member, beq_self_eq_true _⟩

theorem units_read : kubernetesUnits = quantityUnits ++ [("E", { digits := 10 ^ 18 }), ("Ei", { digits := 1024 ^ 6 })] := rfl

theorem units_short : ∀ unit ∈ quantityUnits, unit.2.negative = false ∧ 0 < unit.2.digits ∧ unit.2.digits < 2 ^ 53 ∧
    unit.2.scale ≤ 22 := by decide

theorem zero_float : ∀ scale < 23, Float.ofScientific 0 true scale = .ofModel (.pack (.zero .positive)) := by decide +kernel

theorem short_parts {q : String} {n unit : Decimal} (read : quantityParts kubernetesUnits q = some (n, unit))
    (below : unit.digits < 10 ^ 18) : quantityToF64 q = some (n.float * unit.float) ∧ ∃ name, (name, unit) ∈ quantityUnits := by
  simp only [quantityParts] at read
  obtain ⟨numeral, parsed, found⟩ := bind_eq_some_iff.mp read
  obtain ⟨⟨name, other⟩, listed, same⟩ := map_eq_some_iff.mp found
  obtain ⟨rfl, rfl⟩ := Prod.mk.inj same
  rw [units_read, find?_append] at listed
  rcases or_eq_some_iff.mp listed with here | ⟨_, beyond⟩
  · refine ⟨?_, name, mem_of_find?_eq_some here⟩
    have some : (Text.trim q).toList.isEmpty ≠ true := by
      intro empty
      rw [isEmpty_iff.mp empty] at parsed
      cases parsed
    rw [quantityToF64, if_neg some, quantityParts, parsed, Option.bind_some, here]
    rfl
  · have large : ∀ unit ∈ [("E", ({ digits := 10 ^ 18 } : Decimal)), ("Ei", { digits := 1024 ^ 6 })],
        10 ^ 18 ≤ unit.2.digits := by decide
    exact absurd below (large _ (mem_of_find?_eq_some beyond)).not_gt

theorem unsigned_value {n : Decimal} (unsigned : n.negative = false) : n.value = n.digits / 10 ^ n.scale := by
  rw [Decimal.value, unsigned, Rat.mkRat_eq_div]
  simp

theorem float_unsigned {n : Decimal} (unsigned : n.negative = false) : n.float = Float.ofScientific n.digits true n.scale := by
  rw [Decimal.float, unsigned]
  rfl

-- Two roundings for each of the two numerals and one for their product.
theorem short_reads {q : String} {v : Rat} (short : Short q v) : 0 ≤ v ∧ ∃ x, quantityToF64 q = some x ∧
    (v = 0 ∧ x.toModel.unpack = .zero .positive ∨
      ∃ z, Binary64.Holds x z 375 ∧ v * (1 - Binary64.ulp) ^ 5 ≤ z ∧ z ≤ v * (1 + Binary64.ulp) ^ 5) := by
  obtain ⟨n, unit, read, rfl, unsigned, digits, places, below⟩ := short
  obtain ⟨reads, name, listed⟩ := short_parts read below
  obtain ⟨plain, some, short, fine⟩ := units_short _ listed
  obtain ⟨w, held, least, most⟩ := Binary64.scientific_holds some short fine
  rw [unsigned_value unsigned, unsigned_value plain]
  refine ⟨by positivity, _, reads, ?_⟩
  rw [float_unsigned unsigned, float_unsigned plain]
  rcases Nat.eq_zero_or_pos n.digits with none | counted
  · rw [none, zero_float _ (by omega)]
    refine .inl ⟨by simp, ?_⟩
    obtain ⟨m, e, positive, unpacked, _⟩ := held
    have zero : (Float.Model.pack (.zero .positive)).unpack = .zero .positive := rfl
    change (Float.Model.pack (.mul _ (Float.Model.pack _).unpack (Float.ofScientific _ true _).toModel.unpack)).unpack = _
    rw [unpacked, zero]
    exact zero
  · obtain ⟨v, holds, low, high⟩ := Binary64.scientific_holds counted digits places
    obtain ⟨z, product, lower, upper⟩ := Binary64.mul_holds holds held (by decide)
    have room : (0 : Rat) ≤ 1 - Binary64.ulp ∧ (0 : Rat) ≤ 1 + Binary64.ulp := by norm_num [Binary64.ulp]
    obtain ⟨lesser, greater⟩ := room
    have nonneg := (Binary64.holds_positive holds).le
    have nonneg' := (Binary64.holds_positive held).le
    refine .inr ⟨z, product, le_trans ?_ lower, upper.trans ?_⟩
    · calc _ = n.digits / 10 ^ n.scale * (1 - Binary64.ulp) ^ 2 * (unit.digits / 10 ^ unit.scale * (1 - Binary64.ulp) ^ 2) *
            (1 - Binary64.ulp) := by ring
        _ ≤ v * w * (1 - Binary64.ulp) := by gcongr
    · calc v * w * (1 + Binary64.ulp) ≤ n.digits / 10 ^ n.scale * (1 + Binary64.ulp) ^ 2 *
            (unit.digits / 10 ^ unit.scale * (1 + Binary64.ulp) ^ 2) * (1 + Binary64.ulp) := by gcongr
        _ = _ := by ring

theorem le_blurred {req limit : String} (passed : quantityLe req limit = true) : Blurred req limit := by
  intro r l short shortLimit
  obtain ⟨_, x, read, value⟩ := short_reads short
  obtain ⟨nonneg, y, readLimit, bound⟩ := short_reads shortLimit
  have below : x ≤ y := by
    rw [quantityLe, read, readLimit] at passed
    exact of_decide_eq_true passed
  rcases value with ⟨rfl, _⟩ | ⟨z, held, least, _⟩
  · positivity
  rcases bound with ⟨rfl, zero⟩ | ⟨w, heldLimit, _, most⟩
  · obtain ⟨m, e, positive, unpacked, _⟩ := held
    have ordered : Float.Model.UnpackedFloat.le x.toModel.unpack y.toModel.unpack = true := of_decide_eq_true below
    rw [unpacked, zero] at ordered
    cases ordered
  · have order := least.trans ((Binary64.le_of_float held heldLimit below).trans most)
    have room : (1 + Binary64.ulp) ^ 5 ≤ (1 + 1 / 2 ^ 48) * (1 - Binary64.ulp) ^ 5 := by norm_num [Binary64.ulp]
    refine le_of_mul_le_mul_right (order.trans ?_) (show 0 < (1 - Binary64.ulp) ^ 5 by norm_num [Binary64.ulp])
    rw [mul_assoc]
    gcongr

theorem f64_value {q : String} {v : Float} (read : quantityToF64 q = some v) : (quantityValue q).isSome = true := by
  unfold quantityToF64 at read
  by_cases empty : (Text.trim q).toList.isEmpty = true
  · rw [if_pos empty] at read
    cases read
  · rw [if_neg empty] at read
    obtain ⟨parts, found, _⟩ := map_eq_some_iff.mp read
    simp only [quantityParts] at found
    obtain ⟨n, numeral, unitFound⟩ := bind_eq_some_iff.mp found
    obtain ⟨unit, named, _⟩ := map_eq_some_iff.mp unitFound
    have known : unit.1 ∈ kubernetesUnits.map Prod.fst :=
      mem_map_of_mem (units_read ▸ mem_append_left _ (mem_of_find?_eq_some named))
    have same : unit.1 = String.ofList (splitUnit (Text.trim q).toList).2 := by simpa using find?_some named
    obtain ⟨wide, wider⟩ := unit_known known
    rw [same] at wider
    simp only [quantityValue, quantityParts]
    rw [numeral, wider]
    rfl

theorem split_append (dotSeen : Bool) (chars : List Char) :
    (quantitySplit dotSeen chars).1 ++ (quantitySplit dotSeen chars).2 = chars := by
  induction chars generalizing dotSeen with
  | nil => rfl
  | cons c rest ih =>
    unfold quantitySplit
    by_cases digit : c.isDigit = true
    · rw [if_pos digit, cons_append, ih]
    · rw [if_neg digit]
      by_cases dot : c = '.' ∧ dotSeen = false
      · rw [if_pos dot, cons_append, ih]
      · rw [if_neg dot]
        rfl

theorem split_after_dot (chars : List Char) : (quantitySplit true chars).1.all Char.isDigit = true := by
  induction chars with
  | nil => rfl
  | cons c rest ih =>
    unfold quantitySplit
    by_cases digit : c.isDigit = true
    · rw [if_pos digit, all_cons, digit, ih]
      rfl
    · rw [if_neg digit, if_neg (by simp)]
      rfl

theorem split_magnitude (chars : List Char) : (∀ c ∈ (quantitySplit false chars).1, c.isDigit = true) ∨
      ∃ whole fraction, (quantitySplit false chars).1 = whole ++ '.' :: fraction ∧ (∀ c ∈ whole, c.isDigit = true) ∧
        fraction.all Char.isDigit = true := by
  induction chars with
  | nil => exact .inl (nofun)
  | cons c rest ih =>
    unfold quantitySplit
    by_cases digit : c.isDigit = true
    · rw [if_pos digit]
      rcases ih with plain | ⟨whole, fraction, cut, digits, after⟩
      · left
        exact forall_mem_cons.mpr ⟨digit, plain⟩
      · right
        refine ⟨c :: whole, fraction, congrArg (List.cons c) cut, ?_, after⟩
        exact forall_mem_cons.mpr ⟨digit, digits⟩
    · rw [if_neg digit]
      by_cases dot : c = '.' ∧ false = false
      · rw [if_pos dot]
        exact .inr ⟨[], _, by rw [dot.1]; rfl, nofun, split_after_dot rest⟩
      · rw [if_neg dot]
        exact .inl (nofun)

structure Magnitude (chars : List Char) : Prop where
  unlettered : ∀ c ∈ chars, c.isAlpha = false
  unspaced : ∀ c ∈ chars, Text.whiteSpace c = false
  parsed : (Decimal.parse chars).isSome = true

variable {chars : List Char}

theorem unsigned_parse (unsigned : chars.head? ≠ some '-' ∧ chars.head? ≠ some '+') :
    Decimal.parse chars = Decimal.unsigned chars := by
  rw [Decimal.parse, if_neg unsigned.1, if_neg unsigned.2]

theorem magnitude_of (digit : (quantitySplit false chars).1.any Char.isDigit = true) :
    Magnitude (quantitySplit false chars).1 := by
  obtain ⟨d, listed, isDigit⟩ := any_eq_true.mp digit
  rcases split_magnitude chars with plain | ⟨whole, fraction, cut, digits, after⟩
  · refine ⟨fun c member => (Text.digit_clean (plain c member)).1, fun c member => (Text.digit_clean (plain c member)).2.1, ?_⟩
    have filled : (quantitySplit false chars).1 ≠ [] := ne_nil_of_mem listed
    obtain ⟨first, rest, built⟩ := exists_cons_of_ne_nil filled
    have head := Text.digit_clean (plain first (built ▸ mem_cons_self))
    rw [unsigned_parse (by rw [built]; exact ⟨by simpa using head.2.2.1, by simpa using head.2.2.2⟩)]
    exact Decimal.unsigned_whole plain filled
  · have each (c : Char) (member : c ∈ (quantitySplit false chars).1) : c.isDigit = true ∨ c = '.' := by
      rw [cut, mem_append, mem_cons] at member
      rcases member with front | dot | back
      · exact .inl (digits c front)
      · exact .inr dot
      · exact .inl (all_eq_true.mp after c back)
    refine ⟨?_, ?_, ?_⟩
    · intro c member
      rcases each c member with isDigit | rfl
      · exact (Text.digit_clean isDigit).1
      · rfl
    · intro c member
      rcases each c member with isDigit | rfl
      · exact (Text.digit_clean isDigit).2.1
      · rfl
    · have read : (whole ++ fraction).isEmpty = false := by
        cases empty : whole ++ fraction with
        | cons first rest => rfl
        | nil =>
          obtain ⟨rfl, rfl⟩ := append_eq_nil_iff.mp empty
          rw [cut] at listed
          obtain rfl := mem_singleton.mp listed
          exact absurd isDigit (by decide)
      have unsigned : (whole ++ '.' :: fraction).head? ≠ some '-' ∧ (whole ++ '.' :: fraction).head? ≠ some '+' := by
        cases whole with
        | nil => exact ⟨by simp, by simp⟩
        | cons first rest =>
          have head := Text.digit_clean (digits first mem_cons_self)
          exact ⟨by simpa using head.2.2.1, by simpa using head.2.2.2⟩
      rw [cut, unsigned_parse unsigned]
      exact Decimal.unsigned_plain digits after read

theorem suffix_known : ∀ text ∈ quantitySuffixes, (text.toList.all fun c => !Text.whiteSpace c) = true ∧
    (text.toList.all fun c => c.isAlpha) = true ∧ text ∈ kubernetesUnits.map Prod.fst := by decide

theorem k8s_value {s : String} (valid : isK8sQuantity s = true) : (quantityValue s).isSome = true := by
  simp only [isK8sQuantity, Bool.and_eq_true, contains_iff_mem] at valid
  obtain ⟨⟨digit, _⟩, suffix⟩ := valid
  have magnitude := magnitude_of digit
  have whole := split_append false s.toList
  obtain ⟨unspaced, letters, known⟩ := suffix_known _ suffix
  rw [String.toList_ofList] at unspaced letters
  have clean : Text.trim s = s := by
    apply Text.trim_clean
    intro c member
    rw [← whole, mem_append] at member
    rcases member with front | back
    · exact magnitude.unspaced c front
    · simpa using all_eq_true.mp unspaced c back
  have cut : splitUnit s.toList = quantitySplit false s.toList := by
    have front : ∀ c ∈ (quantitySplit false s.toList).1, (!c.isAlpha) = true := by
      intro c member
      rw [magnitude.unlettered c member]
      rfl
    have stops : (quantitySplit false s.toList).2.takeWhile (fun c => !c.isAlpha) = [] ∧
        (quantitySplit false s.toList).2.dropWhile (fun c => !c.isAlpha) = (quantitySplit false s.toList).2 := by
      cases tail : (quantitySplit false s.toList).2 with
      | nil => exact ⟨rfl, rfl⟩
      | cons first rest =>
        have letter : first.isAlpha = true := all_eq_true.mp letters first (tail ▸ mem_cons_self)
        simp [letter]
    nth_rewrite 1 [← whole]
    rw [splitUnit, takeWhile_append_of_pos front, dropWhile_append_of_pos front, stops.1, stops.2, append_nil]
  obtain ⟨n, numeral⟩ := isSome_iff_exists.mp magnitude.parsed
  obtain ⟨unit, found⟩ := unit_known known
  rw [quantityValue, quantityParts, clean, cut]
  rw [numeral, found]
  rfl

theorem resource_quantity_value (s : String) (valid : isResourceQuantity s = true) : (quantityValue s).isSome = true := by
  rw [isResourceQuantity, Bool.or_eq_true, Bool.and_eq_true] at valid
  rcases valid with disk | ⟨_, read⟩
  · exact k8s_value disk
  · cases parsed : quantityToF64 s with
    | none => simp [parsed] at read
    | some v => exact f64_value parsed

end AppRafter.Webhook
