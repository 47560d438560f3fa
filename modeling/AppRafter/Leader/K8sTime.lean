import Mathlib.Tactic.Ring

set_option autoImplicit false

namespace AppRafter.K8sTime

def second : Int := 1000000000

-- chrono's DateTime<Utc>: the seconds since the epoch, rounded down, and the
-- nanoseconds past them, a leap second's from 10^9 on.
structure DateTime where
  secs : Int
  nanos : Nat
  bounded : -8334601228800 ≤ secs ∧ secs ≤ 8210266876799
  counted : nanos < 2000000000

def DateTime.instant (t : DateTime) : Int := t.secs * second + t.nanos

-- DateTime::from_timestamp.
def fromParts (secs : Int) (nanos : Nat) : Option DateTime :=
  if fits : (-8334601228800 ≤ secs ∧ secs ≤ 8210266876799) ∧ nanos < 2000000000 ∧ (1000000000 ≤ nanos → secs % 60 = 59) then
    some ⟨secs, nanos, fits.1, fits.2.1⟩
  else none

-- jiff's Timestamp, as the conversions use it.
structure Jiff where
  Timestamp : Type
  new : Int → Int → Option Timestamp
  asSecond : Timestamp → Int
  subsecNanosecond : Timestamp → Int
  min : Timestamp
  max : Timestamp

structure Time (Timestamp : Type) where
  stamp : Timestamp

structure MicroTime (Timestamp : Type) where
  stamp : Timestamp

namespace Jiff

variable (jiff : Jiff)

-- None is a panic: of an `expect` that does not hold.
def toTimestamp (t : DateTime) : Option jiff.Timestamp :=
  let clamped := Nat.min t.nanos 999999999
  if clamped ≤ 2147483647 then
    some ((jiff.new t.secs clamped).getD (if t.secs < 0 then jiff.min else jiff.max))
  else none

def fromTimestamp (t : jiff.Timestamp) : Option DateTime :=
  let early := jiff.subsecNanosecond t < 0
  let secs := if early then jiff.asSecond t - 1 else jiff.asSecond t
  let nanos := if early then jiff.subsecNanosecond t + second else jiff.subsecNanosecond t
  if 0 ≤ nanos ∧ nanos < 4294967296 then fromParts secs nanos.toNat else none

def time (t : DateTime) : Option (Time jiff.Timestamp) := (jiff.toTimestamp t).map Time.mk

def microTime (t : DateTime) : Option (MicroTime jiff.Timestamp) := (jiff.toTimestamp t).map MicroTime.mk

def fromTime (t : Time jiff.Timestamp) : Option DateTime := jiff.fromTimestamp t.stamp

def fromMicroTime (t : MicroTime jiff.Timestamp) : Option DateTime := jiff.fromTimestamp t.stamp

def minSecond : Int := -377705023201

def maxSecond : Int := 253402207200

def instant (t : jiff.Timestamp) : Int := jiff.asSecond t * second + jiff.subsecNanosecond t

-- What jiff documents of it: the instants from -009999-01-02T01:59:59Z to
-- 9999-12-30T22:00:00.999999999Z, the two parts of one sign.
structure Documented : Prop where
  made : ∀ secs nanos, minSecond ≤ secs → secs ≤ maxSecond → 0 ≤ nanos → nanos < second →
    ∃ t, jiff.new secs nanos = some t ∧ jiff.instant t = secs * second + nanos
  refused : ∀ secs nanos, secs < minSecond ∨ maxSecond < secs → jiff.new secs nanos = none
  signed : ∀ t, 0 ≤ jiff.asSecond t ∧ 0 ≤ jiff.subsecNanosecond t ∨ jiff.asSecond t ≤ 0 ∧ jiff.subsecNanosecond t ≤ 0
  below : ∀ t, -second < jiff.subsecNanosecond t ∧ jiff.subsecNanosecond t < second
  ranged : ∀ t, minSecond * second ≤ jiff.instant t ∧ jiff.instant t < (maxSecond + 1) * second
  first : jiff.instant jiff.min = minSecond * second
  last : jiff.instant jiff.max = maxSecond * second + 999999999

variable {jiff} (documented : jiff.Documented)

theorem to_timestamp_eq (t : DateTime) :
    jiff.toTimestamp t = some ((jiff.new t.secs (Nat.min t.nanos 999999999)).getD (if t.secs < 0 then jiff.min else jiff.max)) := by
  have clamped : Nat.min t.nanos 999999999 ≤ 999999999 := Nat.min_le_right _ _
  exact if_pos (by omega)

include documented

-- The parts chrono takes are those of the same instant.
theorem from_timestamp_reads (stamp : jiff.Timestamp) :
    ∃ t, jiff.fromTimestamp stamp = some t ∧ t.instant = jiff.instant stamp ∧ t.nanos < 1000000000 := by
  have sizes := documented.below stamp
  have range := documented.ranged stamp
  unfold instant minSecond maxSecond second at *
  by_cases early : jiff.subsecNanosecond stamp < 0
  · have small : (jiff.subsecNanosecond stamp + 1000000000).toNat < 1000000000 := by omega
    refine ⟨⟨jiff.asSecond stamp - 1, (jiff.subsecNanosecond stamp + 1000000000).toNat, by omega, by omega⟩, ?_, ?_, small⟩
    · simp only [fromTimestamp, fromParts, second, early, if_true]
      rw [if_pos (by omega), dif_pos (by omega)]
    · simp only [DateTime.instant, second]
      omega
  · have small : (jiff.subsecNanosecond stamp).toNat < 1000000000 := by omega
    refine ⟨⟨jiff.asSecond stamp, (jiff.subsecNanosecond stamp).toNat, by omega, by omega⟩, ?_, ?_, small⟩
    · simp only [fromTimestamp, fromParts, second, early, if_false]
      rw [if_pos (by omega), dif_pos (by omega)]
    · simp only [DateTime.instant, second]
      omega

omit documented in
theorem instant_injective {a b : DateTime} (smallA : a.nanos < 1000000000) (smallB : b.nanos < 1000000000)
    (same : a.instant = b.instant) : a = b := by
  cases a
  cases b
  simp only [DateTime.instant, second, DateTime.mk.injEq] at *
  omega

theorem in_range (t : DateTime) (small : t.nanos < 1000000000) (early : minSecond * second ≤ t.instant)
    (late : t.instant < (maxSecond + 1) * second) :
    ∃ stamp, jiff.toTimestamp t = some stamp ∧ jiff.fromTimestamp stamp = some t := by
  have clamped : Nat.min t.nanos 999999999 = t.nanos := Nat.min_eq_left (by omega)
  have lower : minSecond ≤ t.secs := by
    unfold DateTime.instant minSecond second at *
    omega
  have upper : t.secs ≤ maxSecond := by
    unfold DateTime.instant maxSecond second at *
    omega
  obtain ⟨stamp, made, kept⟩ := documented.made t.secs t.nanos lower upper (by omega) (by unfold second; omega)
  obtain ⟨back, read, same, under⟩ := from_timestamp_reads documented stamp
  refine ⟨stamp, by rw [to_timestamp_eq, clamped, made]; rfl, ?_⟩
  rw [read, instant_injective under small (same.trans kept)]

end Jiff

open Jiff in
-- Within jiff's range the conversions undo each other to the nanosecond; outside it
-- they end at the nearer end. Neither panics.
theorem conversions_undo (jiff : Jiff) (documented : jiff.Documented) :
    (∀ t : DateTime, t.nanos < 1000000000 → minSecond * second ≤ t.instant → t.instant < (maxSecond + 1) * second →
      (jiff.time t).bind jiff.fromTime = some t ∧ (jiff.microTime t).bind jiff.fromMicroTime = some t) ∧
    (∀ t : DateTime, t.instant < minSecond * second → jiff.toTimestamp t = some jiff.min) ∧
    (∀ t : DateTime, t.nanos < 1000000000 → (maxSecond + 1) * second ≤ t.instant → jiff.toTimestamp t = some jiff.max) ∧
    (∀ t : DateTime, (jiff.toTimestamp t).isSome = true) ∧ ∀ stamp, (jiff.fromTimestamp stamp).isSome = true := by
  refine ⟨fun t small early late => ?_, fun t early => ?_, fun t small late => ?_, fun t => ?_, fun stamp => ?_⟩
  · obtain ⟨stamp, made, back⟩ := in_range documented t small early late
    simp [time, microTime, fromTime, fromMicroTime, made, back]
  · have outside : t.secs < minSecond ∧ t.secs < 0 := by
      unfold DateTime.instant minSecond second at *
      omega
    rw [to_timestamp_eq, documented.refused _ _ (.inl outside.1), Option.getD_none, if_pos outside.2]
  · have outside : maxSecond < t.secs ∧ ¬t.secs < 0 := by
      unfold DateTime.instant maxSecond second at *
      omega
    rw [to_timestamp_eq, documented.refused _ _ (.inr outside.1), Option.getD_none, if_neg outside.2]
  · rw [to_timestamp_eq]
    rfl
  · obtain ⟨t, read, _⟩ := from_timestamp_reads documented stamp
    rw [read]
    rfl

-- Timestamps of two parts, as jiff keeps them.
structure Parts where
  secs : Int
  nanos : Int
  signed : 0 ≤ secs ∧ 0 ≤ nanos ∨ secs ≤ 0 ∧ nanos ≤ 0
  below : -1000000000 < nanos ∧ nanos < 1000000000
  ranged : -377705023201 * 1000000000 ≤ secs * 1000000000 + nanos ∧
    secs * 1000000000 + nanos < (253402207200 + 1) * 1000000000

def partsOf (secs nanos : Int) : Option Parts :=
  if fits : -377705023201 ≤ secs ∧ secs ≤ 253402207200 ∧ 0 ≤ nanos ∧ nanos < 1000000000 then
    if early : secs < 0 ∧ 0 < nanos then some ⟨secs + 1, nanos - 1000000000, by omega, by omega, by omega⟩
    else some ⟨secs, nanos, by omega, by omega, by omega⟩
  else none

def twoParts : Jiff where
  Timestamp := Parts
  new := partsOf
  asSecond := Parts.secs
  subsecNanosecond := Parts.nanos
  min := ⟨-377705023201, 0, by omega, by omega, by omega⟩
  max := ⟨253402207200, 999999999, by omega, by omega, by omega⟩

theorem two_parts_documented : twoParts.Documented where
  made secs nanos lower upper whole small := by
    simp only [twoParts, partsOf, Jiff.instant, second]
    rw [dif_pos ⟨lower, upper, whole, small⟩]
    split
    · exact ⟨_, rfl, by simp only []; omega⟩
    · exact ⟨_, rfl, rfl⟩
  refused secs nanos outside := by
    unfold Jiff.minSecond Jiff.maxSecond at outside
    exact dif_neg (by omega)
  signed := Parts.signed
  below := Parts.below
  ranged := Parts.ranged
  first := rfl
  last := rfl

-- Half a second before the epoch.
def halfBefore : DateTime := ⟨-1, 500000000, by omega, by omega⟩

theorem before_epoch_undone : (twoParts.time halfBefore).bind twoParts.fromTime = some halfBefore :=
  ((conversions_undo twoParts two_parts_documented).1 halfBefore (by decide) (by decide) (by decide)).1

end AppRafter.K8sTime
