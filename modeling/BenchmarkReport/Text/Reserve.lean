/-
This file shows that a symbol takes back no more room than was counted for the text after it, so
that the width of a text is a sum.
-/

import BenchmarkReport.Text.Width

namespace BenchmarkReport.Text

/-- A letter or an indicator that a symbol in front may take back was counted with this room. -/
def Join.reserve : Join → Int
  | .ligature .khmer _ => 1
  | .ligature .tifinaghJoiner _ => 1
  | .joinedRegional => 1
  | .joinedRegionals odd => if odd then 1 else 0
  | _ => 0

/-- The room that a character adds to the reserve of the text after it covers the new reserve. -/
def Covers (reserve : Int) (placed : Int × Following) : Prop :=
  placed.2.join.reserve ≤ placed.1 + reserve

instance (reserve : Int) (placed : Int × Following) : Decidable (Covers reserve placed) :=
  inferInstanceAs (Decidable (_ ≤ _))

theorem Join.reserve_nonneg (join : Join) : 0 ≤ join.reserve := by
  unfold Join.reserve
  repeat' split
  all_goals decide

theorem Covers.mono {reserve greater : Int} {placed : Int × Following}
    (covers : Covers reserve placed) (le : reserve ≤ greater) : Covers greater placed := by
  unfold Covers at *
  omega

theorem Covers.ite {reserve : Int} {condition : Prop} [Decidable condition]
    {first second : Int × Following} (left : Covers reserve first)
    (right : Covers reserve second) : Covers reserve (if condition then first else second) := by
  split <;> assumption

theorem covers_of (reserve : Int) (added : Int) (join : Join)
    (enough : join.reserve ≤ added + reserve) : Covers reserve (added, .of join) := enough

theorem covers_placeAlone (symbol : Char) : Covers 0 (placeAlone symbol) := by
  unfold placeAlone
  repeat' apply Covers.ite
  all_goals decide

theorem covers_placeLigature (symbol : Char) (letter : Ligature) (joined : Bool) :
    Covers (Join.ligature letter joined).reserve (placeLigature symbol letter joined) := by
  have alone := (covers_placeAlone symbol).mono (Join.reserve_nonneg (.ligature letter joined))
  cases letter <;> cases joined <;> simp only [placeLigature]
  all_goals repeat' first | exact alone | decide | apply Covers.ite

theorem covers_placeJoinedPicture (symbol : Char) : Covers 0 (placeJoinedPicture symbol) := by
  unfold placeJoinedPicture
  repeat' first | exact covers_placeAlone symbol | decide | apply Covers.ite

theorem covers_placeBefore (symbol : Char) (join : Join) :
    Covers join.reserve (placeBefore symbol join) := by
  have alone := (covers_placeAlone symbol).mono join.reserve_nonneg
  cases join with
  | ligature letter joined => exact covers_placeLigature symbol letter joined
  | joinedPicture => exact covers_placeJoinedPicture symbol
  | joinedRegionals odd =>
      cases odd <;> simp only [placeBefore]
      all_goals repeat' first | exact alone | decide | apply Covers.ite
  | _ =>
      simp only [placeBefore]
      repeat' first | exact alone | apply Covers.ite
      all_goals exact covers_of _ _ _ (by simp [Join.reserve])

theorem covers_placeBetween (symbol : Char) (following : Following) :
    Covers following.join.reserve (placeBetween symbol following) := by
  have alone := (covers_placeAlone symbol).mono following.join.reserve_nonneg
  have before := covers_placeBefore symbol following.join
  unfold placeBetween
  split
  · rename_i letter joined ligature
    refine .ite ?_ (.ite ?_ (.ite alone before))
    · cases letter <;> simp [Covers, ligature, Join.reserve]
    · simp [Covers]
  · exact .ite alone before

theorem Following.reserve_selectPicture (following : Following) :
    following.selectPicture.join.reserve ≤ following.join.reserve := by
  unfold selectPicture
  split
  · exact Int.le_refl _
  · exact following.join.reserve_nonneg

theorem Following.reserve_selectText (following : Following) :
    following.selectText.join.reserve ≤ following.join.reserve := by
  unfold selectText
  split
  · exact Int.le_refl _
  · exact following.join.reserve_nonneg

theorem Following.reserve_selectQuote (following : Following) :
    following.selectQuote.join.reserve ≤ following.join.reserve := by
  unfold selectQuote
  split
  · exact Int.le_refl _
  · exact following.join.reserve_nonneg

theorem Following.reserve_dropPictureSelector (following : Following) :
    following.dropPictureSelector.join.reserve ≤ following.join.reserve := by
  unfold dropPictureSelector
  split
  · exact Int.le_refl _
  · split
    · exact Int.le_refl _
    · exact following.join.reserve_nonneg

theorem Following.join_dropOtherSelector (following : Following) :
    following.dropOtherSelector.join = following.join := by
  unfold dropOtherSelector
  split <;> rfl

theorem covers_selected {following selected : Following}
    (le : selected.join.reserve ≤ following.join.reserve) :
    Covers following.join.reserve (0, selected) := by
  simpa [Covers] using le

theorem covers_plain {reserve added : Int} (nonnegative : 0 ≤ reserve) (positive : 0 ≤ added)
    (join : Join) (none : join.reserve = 0) : Covers reserve (added, .of join) :=
  covers_of reserve added join (by omega)

theorem covers_placeSelecting (symbol : Char) (following : Following) :
    Covers following.join.reserve (placeSelecting symbol following) := by
  have reserve := following.join.reserve_nonneg
  have between := covers_placeBetween symbol following.dropOtherSelector
  rw [following.join_dropOtherSelector] at between
  unfold placeSelecting
  exact .ite (covers_selected following.reserve_selectPicture)
    (.ite (covers_selected following.reserve_selectText)
      (.ite (covers_selected following.reserve_selectQuote)
        (.ite (covers_plain reserve (by decide) .plain rfl)
          (.ite (covers_plain reserve (by decide) .plain rfl) between))))

theorem covers_placeLatin (symbol : Char) (following : Following) :
    Covers 0 (placeLatin symbol following) := by
  unfold placeLatin
  repeat' first | decide | apply Covers.ite

theorem covers_place (symbol : Char) (following : Following) :
    Covers following.join.reserve (place symbol following) := by
  have reserve := following.join.reserve_nonneg
  have dropped := following.reserve_dropPictureSelector
  unfold place
  refine .ite ?_ (.ite ?_ ?_)
  · exact covers_plain reserve (by split <;> decide) .picture rfl
  · exact (covers_placeLatin symbol _).mono reserve
  · exact (covers_placeSelecting symbol _).mono dropped

/-- A text has more room than the symbols in front of it can take back. -/
theorem reserve_le_measure (text : List Char) :
    (measure text).2.join.reserve ≤ (measure text).1 := by
  induction text with
  | nil => decide
  | cons symbol rest inductionHypothesis =>
      have covers := covers_place symbol (measure rest).2
      rw [measure_cons]
      simp only [Covers] at covers ⊢
      omega

/-- No text takes less than no room. -/
theorem measure_nonneg (text : List Char) : 0 ≤ (measure text).1 :=
  Int.le_trans (Join.reserve_nonneg _) (reserve_le_measure text)

theorem displayWidth_blank (rest : List Char) :
    displayWidth (' ' :: rest) = 1 + displayWidth rest := by
  have nonnegative := measure_nonneg rest
  simp only [displayWidth, measure_cons, place_blank]
  omega

end BenchmarkReport.Text
