import ChartBoard.Chart.Feed

/-!
A picture that follows the changes of its chart stays the picture of the chart. Each
kind of series has plots of its own content; `Series.Form` says how a list of them makes
the series and what is drawn of each, so that one theorem, `advances_record`, covers
every value that a plot of any kind takes. `Chart.Advances` collects what such a step
keeps and what it tells of itself.
-/

namespace ChartBoard

namespace PlotData

/-- The data after edits one after the other, if all of them fit. -/
def editAll? (edits : List Edit) (data : PlotData) : Option PlotData :=
  edits.foldlM (fun data edit => data.edit? edit) data

@[simp] theorem editAll?_nil (data : PlotData) : data.editAll? [] = some data := rfl

@[simp] theorem editAll?_cons (edit : Edit) (edits : List Edit) (data : PlotData) :
    data.editAll? (edit :: edits) = (data.edit? edit).bind (editAll? edits) := rfl

end PlotData

namespace Picture

/-- Changes that fit are followed one list after the other. -/
theorem follow_append {first second : List Change} {picture middle : Picture}
    (h : picture.follow first = (middle, true)) :
    picture.follow (first ++ second) = middle.follow second := by
  induction first generalizing picture with
  | nil =>
      simp only [follow, Prod.mk.injEq, and_true] at h
      subst h
      rfl
  | cons change changes ih =>
      simp only [List.cons_append, follow] at h ⊢
      cases hchange : picture.change? change with
      | none => simp [hchange] at h
      | some next =>
          simp only [hchange] at h ⊢
          exact ih h

/-- Edits that fit the data of one plot change this plot and nothing else. -/
theorem follow_edits {picture : Picture} {index : Nat} {plot : Plot} {edits : List Edit}
    {data : PlotData} (hplot : picture.plots[index]? = some plot)
    (hdata : plot.data.editAll? edits = some data) :
    picture.follow (edits.map fun edit => ⟨index, edit⟩) =
      ({ picture with plots := picture.plots.set index { plot with data := data } }, true) := by
  induction edits generalizing picture plot with
  | nil =>
      obtain ⟨hlt, rfl⟩ := List.getElem?_eq_some_iff.mp hplot
      simp only [PlotData.editAll?_nil, Option.some.injEq] at hdata
      subst hdata
      have hself : picture.plots.set index picture.plots[index] = picture.plots :=
        List.set_getElem_self hlt
      simp only [List.map_nil, follow, hself]
  | cons edit edits ih =>
      obtain ⟨middle, hmiddle, hrest⟩ := Option.bind_eq_some_iff.mp hdata
      have hlt : index < picture.plots.length := (List.getElem?_eq_some_iff.mp hplot).1
      have hchange : picture.change? ⟨index, edit⟩ =
          some { picture with plots := picture.plots.set index { plot with data := middle } } := by
        simp [change?, hplot, hmiddle]
      simp only [List.map_cons, follow, hchange]
      have hnext : (picture.plots.set index { plot with data := middle })[index]? =
          some { plot with data := middle } := by simp [hlt]
      have hfollow :=
        @ih { picture with plots := picture.plots.set index { plot with data := middle } }
          { plot with data := middle } hnext hrest
      rw [hfollow]
      simp

end Picture

namespace CursorTrace

/-- The cursor stands on a point or right behind the last one. -/
def Fits (trace : CursorTrace) : Prop := trace.cursor ≤ trace.points.length

theorem fits_write (point : Point) {trace : CursorTrace} (h : trace.Fits) :
    (trace.write point).Fits := by
  unfold Fits at h
  unfold Fits write
  dsimp only
  split
  · simp only [List.length_set]
    omega
  · simp only [List.length_append, List.length_singleton]
    omega

theorem fits_rewind (trace : CursorTrace) : trace.rewind.Fits := Nat.zero_le _

/-- A cursor that fits writes where the edit says. -/
theorem edit_write (point : Point) {trace : CursorTrace} (h : trace.Fits) :
    (PlotData.points trace.points).edit? (trace.writeEdit point) =
      some (.points (trace.write point).points) := by
  unfold Fits at h
  simp only [writeEdit, PlotData.edit?, write]
  split
  · rfl
  · rw [if_pos (by omega)]

end CursorTrace

namespace TimeTrace

/-- What a trace over time shows. -/
def data (trace : TimeTrace) : PlotData := .points (trace.values.map TimedValue.point)

theorem earlier_append_notEarlier (time : Int) (values : List TimedValue) :
    earlier time values ++ notEarlier time values = values :=
  List.takeWhile_append_dropWhile

theorem insertIdx_length_append {α : Type} (front back : List α) (x : α) :
    (front ++ back).insertIdx front.length x = front ++ x :: back := by
  induction front with
  | nil => simp
  | cons y front ih => simpa using ih

/-- Placing a value edits the points shown at its place. -/
theorem edit_place (v : TimedValue) (values : List TimedValue) :
    (PlotData.points (values.map TimedValue.point)).edit? (placeEdit v values) =
      some (.points ((place v values).map TimedValue.point)) := by
  have hcut := earlier_append_notEarlier v.time values
  have hinsert := insertIdx_length_append ((earlier v.time values).map TimedValue.point)
    ((notEarlier v.time values).map TimedValue.point) v.point
  rw [← List.map_append, hcut, List.length_map] at hinsert
  have hle : (earlier v.time values).length ≤ values.length :=
    (List.takeWhile_sublist _).length_le
  generalize hfront : earlier v.time values = front at hcut hinsert hle
  unfold placeEdit place
  rw [hfront]
  cases hback : notEarlier v.time values with
  | nil =>
      have hnew : hasTime v.time values = false := by simp [hasTime, hback]
      simp [hnew, PlotData.edit?, hle, hinsert, hback]
  | cons w back =>
      rw [hback] at hcut hinsert
      cases hsame : hasTime v.time values with
      | true =>
          have hlt : front.length < values.length := by simp [← hcut]
          have hset : (values.map TimedValue.point).set front.length v.point =
              front.map TimedValue.point ++ v.point :: back.map TimedValue.point := by
            rw [← hcut, List.map_append]
            simp
          simp [PlotData.edit?, hlt, hset]
      | false =>
          simp [PlotData.edit?, hle, hinsert]

theorem staleCount_le (maxAge : Nat) (values : List TimedValue) :
    staleCount maxAge values ≤ values.length := by
  unfold staleCount
  split
  · exact Nat.zero_le _
  · split
    · exact Nat.zero_le _
    · exact (List.takeWhile_sublist _).length_le

/-- The edits of an insertion lead from the points shown before to those shown after. -/
theorem editAll_insert (v : TimedValue) (trace : TimeTrace) :
    trace.data.editAll? (trace.insertEdits v) = some (trace.insert v).data := by
  have hplace := edit_place v trace.values
  have hstale := staleCount_le trace.maxAge (place v trace.values)
  unfold insertEdits insert data
  dsimp only
  rw [PlotData.editAll?_cons, hplace]
  by_cases hnone : staleCount trace.maxAge (place v trace.values) = 0
  · simp [hnone]
  · simp [hnone, PlotData.edit?, hstale, List.map_drop]

end TimeTrace

/-- Updating a plot that is there replaces it. -/
theorem Styled.update_eq_set {α : Type} {index : Nat} {plots : List (Styled α)} {plot : Styled α}
    (h : plots[index]? = some plot) (f : α → α) :
    Styled.update index f plots = plots.set index { plot with content := f plot.content } := by
  obtain ⟨hlt, rfl⟩ := List.getElem?_eq_some_iff.mp h
  apply List.ext_getElem?
  intro i
  unfold Styled.update
  rw [List.getElem?_modify, List.getElem?_set]
  by_cases hi : index = i
  · subst hi
    simp [hlt]
  · simp [hi]

namespace Series

/-- Every cursor of the series fits its trace. -/
def CursorsFit : Series → Prop
  | bar plots | xy plots => ∀ p ∈ plots, p.content.Fits
  | time _ | dial _ => True

/-- How plots of one content make a series: what is drawn of a content, and which
contents fit. -/
structure Form (α : Type) where
  make : List (Styled α) → Series
  kind : ChartKind
  data : α → PlotData
  Fits : α → Prop
  kind_make : ∀ plots, (make plots).kind = kind
  styles_make : ∀ plots, (make plots).styles = plots.map Styled.style
  draw_make : ∀ plots, (make plots).draw = plots.map fun p => ⟨p.style, data p.content⟩
  fit_make : ∀ plots, (make plots).CursorsFit ↔ ∀ p ∈ plots, Fits p.content

namespace Form

def time : Form TimeTrace where
  make := .time
  kind := .time
  data := TimeTrace.data
  Fits _ := True
  kind_make _ := rfl
  styles_make _ := rfl
  draw_make _ := rfl
  fit_make _ := by simp [CursorsFit]

def bar : Form CursorTrace where
  make := .bar
  kind := .bar
  data trace := .points trace.points
  Fits := CursorTrace.Fits
  kind_make _ := rfl
  styles_make _ := rfl
  draw_make _ := rfl
  fit_make _ := Iff.rfl

def xy : Form CursorTrace where
  make := .xy
  kind := .xy
  data trace := .points trace.points
  Fits := CursorTrace.Fits
  kind_make _ := rfl
  styles_make _ := rfl
  draw_make _ := rfl
  fit_make _ := Iff.rfl

def dial : Form Binary64 where
  make := .dial
  kind := .dial
  data := .value
  Fits _ := True
  kind_make _ := rfl
  styles_make _ := rfl
  draw_make _ := rfl
  fit_make _ := by simp [CursorsFit]

end Form

end Series

namespace Chart

/-- What becomes of a chart that takes values, or is cleared or rewound: only the
contents of its plots change, and the changes it has recorded meanwhile lead its
picture from before to after. -/
structure Advances (before after : Chart) : Prop where
  attributes : after.attributes = before.attributes
  header : after.header = before.header
  axes : after.axes = before.axes
  allocatedAxes : after.allocatedAxes = before.allocatedAxes
  kind : after.kind = before.kind
  styles : after.series.styles = before.series.styles
  cursorsFit : before.series.CursorsFit → after.series.CursorsFit
  follows : before.series.CursorsFit → ∃ changes, after.pending = before.pending ++ changes ∧
    before.picture.follow changes = (after.picture, true)

theorem Advances.refl (chart : Chart) : chart.Advances chart where
  attributes := rfl
  header := rfl
  axes := rfl
  allocatedAxes := rfl
  kind := rfl
  styles := rfl
  cursorsFit h := h
  follows _ := ⟨[], (List.append_nil _).symm, rfl⟩

theorem Advances.trans {first second third : Chart} (h : first.Advances second)
    (h' : second.Advances third) : first.Advances third where
  attributes := h'.attributes.trans h.attributes
  header := h'.header.trans h.header
  axes := h'.axes.trans h.axes
  allocatedAxes := h'.allocatedAxes.trans h.allocatedAxes
  kind := h'.kind.trans h.kind
  styles := h'.styles.trans h.styles
  cursorsFit hfit := h'.cursorsFit (h.cursorsFit hfit)
  follows hfit := by
    obtain ⟨changes, hpending, hfollow⟩ := h.follows hfit
    obtain ⟨changes', hpending', hfollow'⟩ := h'.follows (h.cursorsFit hfit)
    refine ⟨changes ++ changes', ?_, ?_⟩
    · rw [hpending', hpending, List.append_assoc]
    · rw [Picture.follow_append hfollow, hfollow']

theorem Advances.plotCount {before after : Chart} (h : before.Advances after) :
    after.plotCount = before.plotCount := congrArg List.length h.styles

/-- A chart that had no changes recorded is pictured by following those that it has
recorded since. -/
theorem Advances.follow_pending {before after : Chart} (h : before.Advances after)
    (hfit : before.series.CursorsFit) (hnone : before.pending = []) :
    before.picture.follow after.pending = (after.picture, true) := by
  obtain ⟨changes, hpending, hfollow⟩ := h.follows hfit
  rw [hpending, hnone, List.nil_append]
  exact hfollow

/-- Recording edits that lead from what a plot showed to what it shows advances the
chart. -/
theorem advances_record {α : Type} (form : Series.Form α) {chart : Chart}
    {plots : List (Styled α)} (hseries : chart.series = form.make plots) {index : Nat}
    {plot : Styled α} (hplot : plots[index]? = some plot) {f : α → α} {edits : List Edit}
    (hfits : form.Fits plot.content → form.Fits (f plot.content))
    (hedits : form.Fits plot.content →
      (form.data plot.content).editAll? edits = some (form.data (f plot.content))) :
    chart.Advances (chart.record index edits (form.make (Styled.update index f plots))) := by
  have hset := Styled.update_eq_set hplot f
  have hmem : plot ∈ plots := List.mem_of_getElem? hplot
  refine ⟨rfl, rfl, rfl, rfl, ?_, ?_, ?_, ?_⟩
  · simp only [Chart.kind, record, hseries, form.kind_make]
  · simp only [record, hseries, form.styles_make, hset, List.map_set]
    have hstyle : (plots.map Styled.style)[index]? = some plot.style := by simp [hplot]
    obtain ⟨hlt, hget⟩ := List.getElem?_eq_some_iff.mp hstyle
    rw [← hget, List.set_getElem_self]
  · intro hold
    simp only [record, hseries, form.fit_make, hset] at hold ⊢
    intro p hp
    rcases List.mem_or_eq_of_mem_set hp with hp | rfl
    · exact hold p hp
    · exact hfits (hold plot hmem)
  · intro hold
    rw [hseries, form.fit_make] at hold
    refine ⟨edits.map fun edit => ⟨index, edit⟩, rfl, ?_⟩
    have hdrawn : chart.picture.plots[index]? =
        some ⟨plot.style, form.data plot.content⟩ := by
      simp [picture, hseries, form.draw_make, hplot]
    rw [Picture.follow_edits hdrawn (hedits (hold plot hmem))]
    simp only [picture, record, Chart.kind, hseries, form.kind_make, form.draw_make, hset,
      List.map_set]

end Chart

end ChartBoard
