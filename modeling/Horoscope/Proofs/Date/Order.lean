import Horoscope.Proofs.Date.Anniversary
import Mathlib.Data.Prod.Lex

set_option autoImplicit false

namespace Horoscope

abbrev DayFigures := Int ×ₗ Nat ×ₗ Nat

def figuresOf (year : Int) (month day : Nat) : DayFigures := toLex (year, toLex (month, day))

theorem figures_le_iff (year otherYear : Int) (month otherMonth day otherDay : Nat) :
    figuresOf year month day ≤ figuresOf otherYear otherMonth otherDay ↔
      year < otherYear ∨ (year = otherYear ∧
        (month < otherMonth ∨ (month = otherMonth ∧ day ≤ otherDay))) := by
  rw [figuresOf, figuresOf, Prod.Lex.toLex_le_toLex, Prod.Lex.toLex_le_toLex]

theorem figures_lt_iff (year otherYear : Int) (month otherMonth day otherDay : Nat) :
    figuresOf year month day < figuresOf otherYear otherMonth otherDay ↔
      year < otherYear ∨ (year = otherYear ∧
        (month < otherMonth ∨ (month = otherMonth ∧ day < otherDay))) := by
  rw [figuresOf, figuresOf, Prod.Lex.toLex_lt_toLex, Prod.Lex.toLex_lt_toLex]

namespace Date

def figures (d : Date) : DayFigures := figuresOf d.year d.month d.day

theorem figures_eq_iff (d : Date) (year : Int) (month day : Nat) :
    d.figures = figuresOf year month day ↔ d.year = year ∧ d.month = month ∧ d.day = day := by
  simp [figures, figuresOf]

theorem le_iff_figures (a b : Date) : a ≤ b ↔ a.figures ≤ b.figures := by
  rw [le_iff, figures, figures, figures_le_iff, seasonLE]

theorem figures_injective (a b : Date) (same : a.figures = b.figures) : a = b :=
  (ext_iff a b).mpr ((figures_eq_iff a _ _ _).mp same)

instance : LinearOrder Date where
  le := (· ≤ ·)
  le_refl a := (le_iff_figures a a).mpr (le_refl a.figures)
  le_trans a b c first second := by
    rw [le_iff_figures] at first second ⊢
    exact le_trans first second
  le_antisymm a b first second := by
    rw [le_iff_figures] at first second
    exact figures_injective a b (le_antisymm first second)
  le_total a b := by
    rw [le_iff_figures, le_iff_figures]
    exact le_total a.figures b.figures
  toDecidableLE := inferInstance

end Date
end Horoscope
