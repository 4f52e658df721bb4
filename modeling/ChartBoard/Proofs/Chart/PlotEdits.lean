import ChartBoard.Proofs.Chart.Replay

/-!
A change edits the data of one plot, or nothing. `Edit.Makes` says of each edit which data it makes
of which, by the lists of points before and behind its place, and `Edit.Fits` when it can. All else
about a picture is left as it is, so changes of different plots do not see each other: they may be
made in either order (`Picture.change_edits_one_plot`).
-/

namespace ChartBoard

namespace Edit

/-- Whether an edit is one for such data, and its position or count is not beyond the points. -/
def Fits : Edit → PlotData → Prop
  | setPoint position _, .points points => position ≤ points.length
  | insertPoint position _, .points points => position ≤ points.length
  | dropOldest count, .points points => count ≤ points.length
  | clearPoints, .points _ => True
  | setValue _, .value _ => True
  | _, _ => False

/-- The data before and after an edit. -/
inductive Makes : Edit → PlotData → PlotData → Prop
  | replaced (front : List Point) (old point : Point) (back : List Point) :
      Makes (setPoint front.length point) (.points (front ++ old :: back))
        (.points (front ++ point :: back))
  | appended (points : List Point) (point : Point) :
      Makes (setPoint points.length point) (.points points) (.points (points ++ [point]))
  | inserted (front : List Point) (point : Point) (back : List Point) :
      Makes (insertPoint front.length point) (.points (front ++ back))
        (.points (front ++ point :: back))
  | dropped (front back : List Point) :
      Makes (dropOldest front.length) (.points (front ++ back)) (.points back)
  | emptied (points : List Point) : Makes clearPoints (.points points) (.points [])
  | moved (old value : Binary64) : Makes (setValue value) (.value old) (.value value)

/-- By how many points an edit changes a plot of so many. -/
def gain (count : Nat) : Edit → Int
  | setPoint position _ => if position = count then 1 else 0
  | insertPoint _ _ => 1
  | dropOldest dropped => -dropped
  | clearPoints => -count
  | setValue _ => 0

variable {edit : Edit} {data after : PlotData}

theorem Makes.length_eq (h : edit.Makes data after) :
    (after.pointList.length : Int) = data.pointList.length + edit.gain data.pointList.length := by
  cases h with
  | replaced | appended | moved => simp [PlotData.pointList, gain]
  | inserted | dropped | emptied =>
      simp only [PlotData.pointList, gain, List.length_append, List.length_cons, List.length_nil]
      omega

theorem Makes.fits (h : edit.Makes data after) : edit.Fits data := by
  cases h <;> simp [Fits]

end Edit

namespace PlotData

variable {edit : Edit} {data after : PlotData}

theorem edit?_of_makes (h : edit.Makes data after) : data.edit? edit = some after := by
  cases h with
  | inserted front point back => simp [edit?, TimeTrace.insertIdx_length_append]
  | replaced | appended | dropped | emptied | moved => simp [edit?]

/-- An edit that fits makes something of the data. -/
theorem exists_makes (h : edit.Fits data) : ∃ after, edit.Makes data after := by
  cases data with
  | value old =>
      cases edit with
      | setValue value => exact ⟨_, .moved old value⟩
      | setPoint | insertPoint | dropOldest | clearPoints => cases h
  | points points =>
      have hcut {position : Nat} (hposition : position ≤ points.length) :
          ∃ front back, points = front ++ back ∧ position = front.length :=
        ⟨points.take position, points.drop position, (List.take_append_drop _ _).symm,
          (List.length_take_of_le hposition).symm⟩
      cases edit with
      | setPoint position point =>
          obtain ⟨front, back, rfl, rfl⟩ := hcut h
          cases back with
          | nil =>
              rw [List.append_nil]
              exact ⟨_, .appended front point⟩
          | cons old back => exact ⟨_, .replaced front old point back⟩
      | insertPoint position point =>
          obtain ⟨front, back, rfl, rfl⟩ := hcut h
          exact ⟨_, .inserted front point back⟩
      | dropOldest count =>
          obtain ⟨front, back, rfl, rfl⟩ := hcut h
          exact ⟨_, .dropped front back⟩
      | clearPoints => exact ⟨_, .emptied points⟩
      | setValue => cases h

theorem fits_of_edit? (h : data.edit? edit = some after) : edit.Fits data := by
  cases edit <;> cases data <;> simp only [edit?, Edit.Fits] at h ⊢
  all_goals grind

theorem edit?_eq_some_iff : data.edit? edit = some after ↔ edit.Makes data after := by
  refine ⟨fun h => ?_, edit?_of_makes⟩
  obtain ⟨made, hmade⟩ := exists_makes (fits_of_edit? h)
  obtain rfl : made = after := Option.some.inj ((edit?_of_makes hmade).symm.trans h)
  exact hmade

end PlotData

namespace Picture

/-- The picture with other data in one of its plots. -/
def withData (index : Nat) (data : PlotData) (picture : Picture) : Picture :=
  { picture with plots := picture.plots.modify index fun plot => { plot with data := data } }

/-- What a change makes of the data of its plot, if there is this plot and the change fits. -/
def edited? (change : Change) (picture : Picture) : Option PlotData :=
  picture.plots[change.plot]?.bind fun plot => plot.data.edit? change.edit

section OneChange

variable (change : Change) (picture : Picture)

theorem edited?_eq_some_iff {data : PlotData} : picture.edited? change = some data ↔
    ∃ plot, picture.plots[change.plot]? = some plot ∧ change.edit.Makes plot.data data := by
  simp only [edited?, Option.bind_eq_some_iff, PlotData.edit?_eq_some_iff]

theorem change?_eq : picture.change? change =
    (picture.edited? change).map fun data => picture.withData change.plot data := by
  unfold change? edited?
  cases hplot : picture.plots[change.plot]? with
  | none => rfl
  | some plot =>
      obtain ⟨hlt, rfl⟩ := List.getElem?_eq_some_iff.mp hplot
      simp only [withData, List.modify_eq_take_cons_drop hlt, List.set_eq_take_append_cons_drop,
        if_pos hlt, Option.bind_some]

/-- The picture after a change, which leaves it as it was unless it fits. -/
def made : Picture :=
  ((picture.edited? change).map fun data => picture.withData change.plot data).getD picture

variable {change picture}

theorem made_of_edited {data : PlotData} (h : picture.edited? change = some data) :
    picture.made change = picture.withData change.plot data := by
  rw [made, h, Option.map_some, Option.getD_some]

theorem made_of_unedited (h : picture.edited? change = none) : picture.made change = picture := by
  rw [made, h, Option.map_none, Option.getD_none]

variable (change picture)

theorem change?_eq_made : picture.change? change =
    if (picture.edited? change).isSome then some (picture.made change) else none := by
  rw [change?_eq]
  cases hedited : picture.edited? change with
  | none => rfl
  | some data =>
      rw [made_of_edited hedited]
      rfl

/-- A change that is made in place answers whether it fits. -/
theorem follow_single :
    picture.follow [change] = (picture.made change, (picture.edited? change).isSome) := by
  rw [follow, change?_eq_made]
  cases hedited : picture.edited? change with
  | none => simp [made_of_unedited hedited]
  | some data => simp [follow]

end OneChange

/-- Other data in a plot makes a difference to the points of this plot alone. -/
theorem pointCount_withData {index : Nat} {picture : Picture} {plot : Plot}
    (h : picture.plots[index]? = some plot) (data : PlotData) :
    (picture.withData index data).pointCount + plot.data.pointList.length =
      picture.pointCount + data.pointList.length := by
  obtain ⟨hlt, -⟩ := List.getElem?_eq_some_iff.mp h
  obtain ⟨front, old, back, hplots, hfront, hmodify⟩ :=
    List.exists_of_modify (fun plot : Plot => { plot with data := data }) hlt
  obtain rfl : old = plot := by
    rw [hplots, ← hfront] at h
    simpa using h
  unfold pointCount withData
  rw [hmodify, hplots, ← List.sum_eq_foldl, ← List.sum_eq_foldl]
  simp only [List.map_append, List.map_cons, List.sum_append, List.sum_cons]
  omega

section TwoChanges

variable {first second : Change} (hapart : first.plot ≠ second.plot) (picture : Picture)

include hapart

theorem withData_comm (data other : PlotData) :
    (picture.withData first.plot data).withData second.plot other =
      (picture.withData second.plot other).withData first.plot data :=
  congrArg (fun plots => { picture with plots := plots }) (List.modify_modify_ne _ _ _ hapart)

/-- What a change makes of its plot does not hang on the data of another plot. -/
theorem edited?_withData (data : PlotData) :
    (picture.withData first.plot data).edited? second = picture.edited? second := by
  unfold edited? withData
  dsimp only
  rw [List.getElem?_modify_ne _ _ hapart]

theorem edited?_made : (picture.made first).edited? second = picture.edited? second := by
  unfold made
  cases picture.edited? first with
  | none => rfl
  | some data => exact edited?_withData hapart picture data

/-- Changes of different plots come to the same picture in either order, whether they fit or not. -/
theorem made_comm : (picture.made first).made second = (picture.made second).made first := by
  have hsecond := edited?_made hapart picture
  have hfirst := edited?_made hapart.symm picture
  cases hdata : picture.edited? first with
  | none => rw [made_of_unedited hdata, made_of_unedited (hfirst.trans hdata)]
  | some data =>
      cases hother : picture.edited? second with
      | none => rw [made_of_unedited hother, made_of_unedited (hsecond.trans hother)]
      | some other =>
          rw [made_of_edited (hsecond.trans hother), made_of_edited (hfirst.trans hdata),
            made_of_edited hdata, made_of_edited hother]
          exact withData_comm hapart picture data other

end TwoChanges

/-- A change is made exactly if its plot is there and it fits the data of this plot. If it is not,
the picture is left as it was. If it is, only the data of this plot is another, and the points are
more or fewer by what the edit gains. Changes of different plots have the same answers and come to
the same picture in either order. -/
theorem change_edits_one_plot (change : Change) (picture : Picture) :
    let answer := picture.follow [change]
    (answer.2 = true ↔
      ∃ plot, picture.plots[change.plot]? = some plot ∧ change.edit.Fits plot.data) ∧
    (answer.2 = false → answer.1 = picture) ∧
    (answer.2 = true → ∃ plot data, picture.plots[change.plot]? = some plot ∧
      change.edit.Makes plot.data data ∧ answer.1 = picture.withData change.plot data ∧
      (answer.1.pointCount : Int) =
        picture.pointCount + change.edit.gain plot.data.pointList.length) ∧
    ∀ other : Change, change.plot ≠ other.plot →
      let otherAnswer := picture.follow [other]
      (answer.1.follow [other]).2 = otherAnswer.2 ∧ (otherAnswer.1.follow [change]).2 = answer.2 ∧
        (answer.1.follow [other]).1 = (otherAnswer.1.follow [change]).1 := by
  simp only [follow_single]
  refine ⟨⟨fun h => ?_, ?_⟩, fun h => ?_, fun h => ?_, fun other hapart => ⟨?_, ?_, ?_⟩⟩
  · obtain ⟨data, hdata⟩ := Option.isSome_iff_exists.mp h
    obtain ⟨plot, hplot, hmakes⟩ := (edited?_eq_some_iff change picture).mp hdata
    exact ⟨plot, hplot, hmakes.fits⟩
  · rintro ⟨plot, hplot, hfits⟩
    obtain ⟨data, hmakes⟩ := PlotData.exists_makes hfits
    exact Option.isSome_iff_exists.mpr
      ⟨data, (edited?_eq_some_iff change picture).mpr ⟨plot, hplot, hmakes⟩⟩
  · exact made_of_unedited (Option.isNone_iff_eq_none.mp (Option.isSome_eq_false_iff.mp h))
  · obtain ⟨data, hdata⟩ := Option.isSome_iff_exists.mp h
    obtain ⟨plot, hplot, hmakes⟩ := (edited?_eq_some_iff change picture).mp hdata
    refine ⟨plot, data, hplot, hmakes, made_of_edited hdata, ?_⟩
    have hcount := pointCount_withData hplot data
    have hgain := hmakes.length_eq
    rw [made_of_edited hdata]
    omega
  · rw [edited?_made hapart]
  · rw [edited?_made hapart.symm]
  · exact made_comm hapart picture

/-- A point put in before another, beside a plot without points of which none can be dropped. -/
theorem change_edits_one_plot_two_plots :
    let picture := (Chart.ofCalls .xy [.addPlot, .addPlot, .addPoint 0 ⟨.zero, .zero⟩]).picture
    let change : Change := ⟨0, .insertPoint 0 ⟨.zero, .zero⟩⟩
    let other : Change := ⟨1, .dropOldest 1⟩
    (picture.follow [change]).2 = true ∧ (picture.follow [change]).1.pointCount = 2 ∧
      change.plot ≠ other.plot ∧ ((picture.follow [change]).1.follow [other]).2 = false ∧
      (picture.follow [change]).1 = ((picture.follow [other]).1.follow [change]).1 := by
  intro picture change other
  obtain ⟨hfits, -, hmade, hcomm⟩ := change_edits_one_plot change picture
  obtain ⟨-, hunmade, -, -⟩ := change_edits_one_plot other (picture.follow [change]).1
  have hanswer : (picture.follow [change]).2 = true :=
    hfits.mpr ⟨_, rfl, show (0 : Nat) ≤ 1 by decide⟩
  obtain ⟨plot, data, hplot, hmakes, -, hcount⟩ := hmade hanswer
  have hapart : change.plot ≠ other.plot := by decide
  obtain ⟨hsame, -, hpicture⟩ := hcomm other hapart
  have hother : (picture.follow [other]).2 = false := by decide +kernel
  refine ⟨hanswer, ?_, hapart, hsame.trans hother, ?_⟩
  · have hone : picture.pointCount = 1 := by decide +kernel
    have hgain : change.edit.gain plot.data.pointList.length = 1 := rfl
    omega
  · rw [← hpicture]
    exact (hunmade (hsame.trans hother)).symm

end Picture

end ChartBoard
