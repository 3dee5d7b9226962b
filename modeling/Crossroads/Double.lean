/-!
# Double-precision readings

Counters become doubles by rounding to the nearest one, a tie going to the even neighbour; and doubles have a total
order that tells apart the two zeros.
-/
namespace Crossroads.Double

/-- A number divided by `2 ^ s`, rounded to the nearest whole number, a tie going to the even one. -/
def roundShift (n s : Nat) : Nat :=
  let q := n >>> s
  let r := n % 1 <<< s
  if 1 <<< s < 2 * r ∨ (2 * r = 1 <<< s ∧ q % 2 = 1) then q + 1 else q

/-- The double nearest to a natural number.  Up to 53 bits are exact; beyond that the leading 53 bits are rounded. -/
def ofNat (n : Nat) : Float :=
  let s := n.log2 - 52
  if s = 0 then Float.ofNat n else (Float.ofNat (roundShift n s)).scaleB s

/-- The key of the total order on doubles: below zero the patterns count downwards from minus zero, above zero they
count upwards from plus zero. -/
def orderKey (x : Float) : Int :=
  let b := x.toBits.toNat
  if b < 0x8000000000000000 then b else -(b - 0x8000000000000000 : Nat) - 1

def compare (x y : Float) : Ordering := Ord.compare (orderKey x) (orderKey y)

theorem roundShift_zero (n : Nat) : roundShift n 0 = n := by
  simp [roundShift, Nat.mod_one]

theorem roundShift_near (n s : Nat) :
    2 * n ≤ 2 * (roundShift n s <<< s) + 1 <<< s ∧ 2 * (roundShift n s <<< s) ≤ 2 * n + 1 <<< s := by
  have hunit : 1 <<< s = 2 ^ s := Nat.one_shiftLeft s
  have hp : 0 < 1 <<< s := hunit ▸ Nat.two_pow_pos s
  have hq : n >>> s = n / 1 <<< s := hunit ▸ Nat.shiftRight_eq_div_pow n s
  have hmul : roundShift n s <<< s = roundShift n s * 1 <<< s := hunit ▸ Nat.shiftLeft_eq (roundShift n s) s
  rw [hmul]
  simp only [roundShift, hq]
  clear hunit hq hmul
  generalize 1 <<< s = u at *
  have hd : u * (n / u) + n % u = n := Nat.div_add_mod n u
  have hl : n % u < u := Nat.mod_lt n hp
  have hc : n / u * u = u * (n / u) := Nat.mul_comm _ _
  have he : (n / u + 1) * u = u * (n / u) + u := by rw [Nat.add_mul, hc, Nat.one_mul]
  split
  · rename_i h
    rw [he]; omega
  · rename_i h
    rw [hc]; omega

end Crossroads.Double
