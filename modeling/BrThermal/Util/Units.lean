/-
`util::units`: media dimensions.

A media dimension is a whole number of micrometres, held in an `int`.  PAPPL's
hundredths of a millimetre fit it exactly as long as ten times their number fits
an `int`, and the printer's whole millimetres truncate it towards zero.
-/

namespace BrThermal
namespace Util
namespace Units

abbrev MediaSize := Int

abbrev DotCount := Int

def micrometresPerPwgUnit : Int32 := 10

/-- The product is one of two `int`s.  C++ leaves its overflow undefined; here it wraps
around. -/
def fromPwg (value : Int32) : MediaSize := (value * micrometresPerPwgUnit).toInt

def toPwg (size : MediaSize) : Int := size.tdiv micrometresPerPwgUnit.toInt

def mm (n : Int) : MediaSize := n * 1000

def toWholeMillimetres (size : MediaSize) : Int := size.tdiv 1000

/-- The size that a number of hundredths of a millimetre stands for. -/
def micrometres (value : Int32) : MediaSize := value.toInt * 10

def FitsInt (size : MediaSize) : Prop := -2147483648 ≤ size ∧ size ≤ 2147483647

instance (size : MediaSize) : Decidable (FitsInt size) := inferInstanceAs (Decidable (_ ∧ _))

theorem fromPwg_of_fitsInt {value : Int32} (h : FitsInt (micrometres value)) :
    fromPwg value = micrometres value := by
  obtain ⟨hlower, hupper⟩ := h
  rw [fromPwg, Int32.toInt_mul]
  exact Int.bmod_eq_of_le hlower (Int.lt_of_le_sub_one hupper)

theorem fitsInt_toInt (size : Int32) : FitsInt size.toInt :=
  ⟨size.le_toInt, Int.le_sub_one_of_lt size.toInt_lt⟩

end Units
end Util
end BrThermal
