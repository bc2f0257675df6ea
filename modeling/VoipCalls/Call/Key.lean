import VoipCalls.Address.Basic

/-!
# Correlation keys

The value by which the packets of one call are recognised.  A key is kept in a normal form in which
two keys agree exactly if they are the same value, whatever kind of number they were written with:
an integer, a truth value and a floating-point number of one value are one `whole` key.

A NaN is equal to nothing, not even to itself.  But keys are looked up by identity before they are
compared, also inside of tuples, so that a NaN is found again as the object that it is.  In the
normal form a NaN is therefore the number of an object.
-/

namespace VoipCalls

/-- A correlation key in normal form. -/
inductive CorrelationKey where
  | absent
  | text (s : String)
  | octets (bs : List UInt8)
  | ip (i : Ip)
  | whole (n : Int)
  | fraction (x : Double)
  | notANumber (object : Nat)
  | tuple (parts : List CorrelationKey)

namespace CorrelationKey

/-- The key of a floating-point number; `object` is the number of the object that it is. -/
def ofDouble (object : Nat) (x : Double) : CorrelationKey :=
  if x.isNaN then notANumber object
  else
    match x.toInt? with
    | some n => whole n
    | none => fraction x

mutual

/-- Whether two keys have the same normal form. -/
def same : CorrelationKey → CorrelationKey → Bool
  | absent, absent => true
  | text s, text t => s == t
  | octets bs, octets cs => bs == cs
  | ip i, ip j => i == j
  | whole n, whole m => n == m
  | fraction x, fraction y => x == y
  | notANumber a, notANumber b => a == b
  | tuple ks, tuple ls => sameAll ks ls
  | _, _ => false

/-- Whether two lists of keys have the same normal forms. -/
def sameAll : List CorrelationKey → List CorrelationKey → Bool
  | [], [] => true
  | k :: ks, l :: ls => same k l && sameAll ks ls
  | _, _ => false

end

mutual

/-- Whether no NaN stands anywhere in the key. -/
def isComparable : CorrelationKey → Bool
  | notANumber _ => false
  | tuple ks => allComparable ks
  | _ => true

/-- Whether no NaN stands anywhere in the keys. -/
def allComparable : List CorrelationKey → Bool
  | [] => true
  | k :: ks => isComparable k && allComparable ks

end

mutual

theorem eq_of_same : ∀ {k l : CorrelationKey}, same k l = true → k = l
  | absent, l, h => by cases l <;> simp_all [same]
  | text _, l, h => by cases l <;> simp_all [same]
  | octets _, l, h => by cases l <;> simp_all [same]
  | ip _, l, h => by cases l <;> simp_all [same]
  | whole _, l, h => by cases l <;> simp_all [same]
  | fraction _, l, h => by cases l <;> simp_all [same]
  | notANumber _, l, h => by cases l <;> simp_all [same]
  | tuple ks, l, h => by
    cases l <;> simp only [same, Bool.false_eq_true] at h
    rw [eq_of_sameAll h]

theorem eq_of_sameAll : ∀ {ks ls : List CorrelationKey}, sameAll ks ls = true → ks = ls
  | [], ls, h => by cases ls <;> simp_all [sameAll]
  | k :: ks, ls, h => by
    cases ls with
    | nil => simp [sameAll] at h
    | cons l ls =>
      simp only [sameAll, Bool.and_eq_true] at h
      rw [eq_of_same h.1, eq_of_sameAll h.2]

end

mutual

theorem same_self : ∀ k : CorrelationKey, same k k = true
  | absent | text _ | octets _ | ip _ | whole _ | fraction _ | notANumber _ => by simp [same]
  | tuple ks => by simp only [same]; exact sameAll_self ks

theorem sameAll_self : ∀ ks : List CorrelationKey, sameAll ks ks = true
  | [] => rfl
  | k :: ks => by simp only [sameAll, same_self k, sameAll_self ks, Bool.and_self]

end

instance : DecidableEq CorrelationKey := fun k l =>
  if h : same k l = true then isTrue (eq_of_same h)
  else isFalse fun e => h (e ▸ same_self k)

/-- Whether a key is found where the other was entered: they are one value or one object. -/
def agrees (k l : CorrelationKey) : Bool :=
  decide (k = l)

@[simp] theorem agrees_iff {k l : CorrelationKey} : k.agrees l = true ↔ k = l :=
  decide_eq_true_iff

/-- Whether two keys are equal as values, which no NaN is to anything. -/
def equals (k l : CorrelationKey) : Bool :=
  decide (k = l) && k.isComparable

theorem equals_iff {k l : CorrelationKey} : k.equals l = true ↔ k = l ∧ k.isComparable = true := by
  simp [equals]

end CorrelationKey

/-- The normal form of an address that has not been read, as the value that it is.  Addresses are
compared as values only, so that it does not matter which object a NaN is. -/
def RawAddress.key : RawAddress → CorrelationKey
  | unset => .absent
  | ip i => .ip i
  | text s => .text s
  | octets bs => .octets bs
  | whole n => .whole n
  | truth b => .whole (if b then 1 else 0)
  | real x => .ofDouble 0 x

end VoipCalls
