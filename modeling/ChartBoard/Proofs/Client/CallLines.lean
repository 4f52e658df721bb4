import ChartBoard.Proofs.Client.Exchanges
import ChartBoard.Proofs.Client.MeantLines

/-!
The calls of a client and their lines. Each call has its lines to say, one after the other, and
says them until one is refused. No line has an end of line in it unless the call passes on a text
that has one.
-/

namespace ChartBoard

open Text Connection Client

/-- The calls of a client that neither connect nor hang up. -/
inductive ClientCall where
  | setPatience (milliseconds : Nat)
  | setGrid (rows columns : Nat)
  | setFrameTitle (title : String)
  | setLegend (enabled : Bool)
  | setKind (name : String)
  | openChart (name title : String)
  | init
  | addPlot (settings : Option PlotSettings)
  | addValues (values : List Binary64)
  | addPoint (p : PlotPoint)
  | addTimed (plot : Nat) (time : Timestamp) (y : Binary64)
  | clear (plot : Nat)
  | replot (plot : Nat)
  | enableStatus (enabled : Bool)
  | setCaching (enabled : Bool)
  | update

namespace ClientCall

/-- The call itself. -/
def make {σ : Type} [Link σ] : ClientCall → Call σ Unit
  | setPatience milliseconds => Client.setPatience milliseconds
  | setGrid rows columns => Client.setGrid rows columns
  | setFrameTitle title => Client.setFrameTitle title
  | setLegend enabled => Client.setLegend enabled
  | setKind name => Client.setKind name
  | openChart name title => Client.openChart name title
  | init => Client.init
  | addPlot settings => Client.addPlot settings
  | addValues values => Client.addValues values
  | addPoint p => Client.addPoint p
  | addTimed plot time y => Client.addTimed plot time y
  | clear plot => Client.clear plot
  | replot plot => Client.replot plot
  | enableStatus enabled => Client.enableStatus enabled
  | setCaching enabled => Client.setCaching enabled
  | update => Client.update

/-- The texts that a call passes on. -/
def texts : ClientCall → List String
  | setFrameTitle title | openChart _ title => [title]
  | addPlot (some settings) => [settings.plotName, settings.xAxisName, settings.yAxisName]
  | _ => []

/-- A line that assigns a value to a name. -/
def assignment (name value : String) : String := Keyword.set ++ name ++ "=" ++ value

/-- The lines that say a plot is added, with all that is said of it before. -/
def plotLines (settings : Option PlotSettings) : List String :=
  ((settings.elim [] PlotSettings.assignments).map fun (item, value) =>
    assignment item.name value) ++ [Keyword.addPlot]

/-- The lines that open a chart of a kind with a title. -/
def chartLines (title : String) (kind : ChartKind) : List String :=
  assignment SettingName.graph kind.name ::
    ((if title.isEmpty then [] else [assignment Attribute.plotTitle.name title]) ++ [Keyword.init])

/-- The lines that a call has to say, if none is refused. What `update` says has been kept back
by other calls. -/
def lines : ClientCall → List String
  | setGrid rows columns => [assignment SettingName.grid (toString rows ++ "," ++ toString columns)]
  | setFrameTitle title => [assignment SettingName.frameTitle title]
  | setLegend enabled => [assignment Attribute.enableLegend.name (Attributes.flagText enabled)]
  | setKind name =>
      (ChartKind.ofName? name).elim [] fun kind => [assignment SettingName.graph kind.name]
  | openChart name title => (ChartKind.ofName? name).elim [] (chartLines title)
  | init => [Keyword.init]
  | addPlot settings => plotLines settings
  | addValues [] => []
  | addValues values => [String.intercalate "," (values.map Binary64.text)]
  | addPoint p => [toString p.plot ++ ":" ++ p.x.text ++ ":" ++ p.y.text]
  | addTimed plot time y => [toString plot ++ ":" ++ time.text ++ ":" ++ y.text]
  | clear plot => [Keyword.clear ++ " " ++ toString plot]
  | replot plot => [Keyword.replot ++ " " ++ toString plot]
  | enableStatus enabled => [Keyword.enableStatus ++ " " ++ if enabled then "1" else "0"]
  | setPatience _ | setCaching _ | update => []

/-- The name of a kind that there is not. -/
def unknownKind? : ClientCall → Option String
  | setKind name | openChart name _ => if (ChartKind.ofName? name).isNone then some name else none
  | _ => none

/-- Whether the lines of a call carry values. -/
def isData : ClientCall → Bool
  | addValues _ | addPoint _ | addTimed _ _ _ => true
  | _ => false

section OneLine

theorem oneLine_assignment {name value : String} (hname : OneLine name.toList)
    (hvalue : OneLine value.toList) : OneLine (assignment name value).toList := by
  simp only [assignment, oneLine_string_append]
  exact ⟨⟨⟨oneLine_ofList (by decide), hname⟩, oneLine_ofList (by decide)⟩, hvalue⟩

theorem oneLine_attribute (item : Attribute) : OneLine item.name.toList := by
  cases item <;> exact oneLine_ofList (by decide)

theorem oneLine_flag (flag : Bool) : OneLine (Attributes.flagText flag).toList := by
  cases flag <;> exact oneLine_ofList (by decide)

theorem oneLine_number (x : Binary64) : OneLine x.text.toList :=
  x.digitsAnd_text.not_mem (by decide) (by decide)

/-- Whatever is said of a plot is on one line, if its names are. -/
theorem oneLine_value {settings : PlotSettings}
    (h : ∀ text ∈ (addPlot (some settings)).texts, OneLine text.toList) :
    ∀ entry ∈ settings.assignments, OneLine entry.2.toList := by
  obtain ⟨hplot, hx, hy, -⟩ : OneLine settings.plotName.toList ∧ OneLine settings.xAxisName.toList ∧
      OneLine settings.yAxisName.toList ∧ True := by
    simpa only [texts, List.forall_mem_cons, List.not_mem_nil, false_imp_iff, implies_true] using h
  simp only [PlotSettings.assignments, List.forall_mem_cons, List.not_mem_nil, false_imp_iff,
    implies_true, and_true]
  exact ⟨hplot, hx, hy, oneLine_flag _, oneLine_toString _, oneLine_flag _, oneLine_flag _,
    oneLine_number _, oneLine_number _, oneLine_toString _, oneLine_flag _, oneLine_flag _,
    oneLine_flag _, oneLine_toString _⟩

theorem oneLine_plotLines {settings : Option PlotSettings}
    (h : ∀ text ∈ (addPlot settings).texts, OneLine text.toList) :
    ∀ line ∈ plotLines settings, OneLine line.toList := by
  have hadd : ∀ line ∈ [Keyword.addPlot], OneLine line.toList :=
    List.forall_mem_singleton.mpr (oneLine_ofList (by decide))
  refine List.forall_mem_append.mpr ⟨?_, hadd⟩
  cases settings with
  | none => intro line hline; cases hline
  | some settings =>
      intro line hline
      obtain ⟨entry, hentry, rfl⟩ := List.mem_map.mp hline
      exact oneLine_assignment (oneLine_attribute entry.1) (oneLine_value h entry hentry)

theorem oneLine_chartLines {title : String} (h : OneLine title.toList) (kind : ChartKind) :
    ∀ line ∈ chartLines title kind, OneLine line.toList := by
  have hinit : ∀ line ∈ [Keyword.init], OneLine line.toList :=
    List.forall_mem_singleton.mpr (oneLine_ofList (by decide))
  refine List.forall_mem_cons.mpr ⟨oneLine_assignment (oneLine_ofList (by decide))
    (oneLine_kind kind), ?_⟩
  refine List.forall_mem_append.mpr ⟨?_, hinit⟩
  split
  · intro line hline; cases hline
  · exact List.forall_mem_singleton.mpr (oneLine_assignment (oneLine_attribute _) h)

/-- Data have no room for an end of line. -/
theorem oneLine_data {line : List Char} (h : DigitsAnd Command.dataCharacters line) :
    OneLine (String.ofList line).toList :=
  oneLine_ofList (h.not_mem (by decide) (by decide))

theorem oneLine_operand {keyword : String} (h : OneLine keyword.toList) (plot : Nat) :
    OneLine (keyword ++ " " ++ toString plot).toList := by
  simp only [oneLine_string_append]
  exact ⟨⟨h, oneLine_ofList (by decide)⟩, oneLine_toString plot⟩

/-- A call that passes on texts on one line says nothing else. -/
theorem oneLine_lines {call : ClientCall} (h : ∀ text ∈ call.texts, OneLine text.toList) :
    ∀ line ∈ call.lines, OneLine line.toList := by
  have hnone : ∀ line ∈ ([] : List String), OneLine line.toList := fun line hline => nomatch hline
  have hone {line : String} (hline : OneLine line.toList) :
      ∀ other ∈ [line], OneLine other.toList :=
    List.forall_mem_singleton.mpr hline
  cases call with
  | setPatience milliseconds => exact hnone
  | setGrid rows columns =>
      refine hone (oneLine_assignment (oneLine_ofList (by decide)) ?_)
      simp only [oneLine_string_append]
      exact ⟨⟨oneLine_toString rows, oneLine_ofList (by decide)⟩, oneLine_toString columns⟩
  | setFrameTitle title =>
      exact hone (oneLine_assignment (oneLine_ofList (by decide)) (h title List.mem_cons_self))
  | setLegend enabled =>
      exact hone (oneLine_assignment (oneLine_attribute _) (oneLine_flag enabled))
  | setKind name =>
      rw [lines]
      cases ChartKind.ofName? name with
      | none => exact hnone
      | some kind =>
          exact hone (oneLine_assignment (oneLine_ofList (by decide)) (oneLine_kind kind))
  | openChart name title =>
      rw [lines]
      cases ChartKind.ofName? name with
      | none => exact hnone
      | some kind => exact oneLine_chartLines (h title List.mem_cons_self) kind
  | init => exact hone (oneLine_ofList (by decide))
  | addPlot settings => exact oneLine_plotLines h
  | addValues values =>
      cases values with
      | nil => exact hnone
      | cons x values =>
          rw [lines, sequentialLine_eq]
          · exact hone (oneLine_data (Command.digitsAnd_sequentialLine _))
          · exact List.cons_ne_nil x values
  | addPoint p =>
      rw [lines, pointLine_eq]
      exact hone (oneLine_data (Command.digitsAnd_pointLine p))
  | addTimed plot time y =>
      rw [lines, timedLine_eq]
      exact hone (oneLine_data (Command.digitsAnd_timedLine plot time y))
  | clear plot => exact hone (oneLine_operand (oneLine_ofList (by decide)) plot)
  | replot plot => exact hone (oneLine_operand (oneLine_ofList (by decide)) plot)
  | enableStatus enabled =>
      have hflag : OneLine (if enabled then "1" else "0").toList := by
        cases enabled <;> exact oneLine_ofList (by decide)
      refine hone ?_
      simp only [oneLine_string_append]
      exact ⟨⟨oneLine_ofList (by decide), oneLine_ofList (by decide)⟩, hflag⟩
  | setCaching enabled => exact hnone
  | update => exact hnone

end OneLine

section Saying

variable {σ : Type} [Link σ]

theorem sayAll_singleton (line : String) : (sayAll [line] : Call σ Unit) = command line := by
  simp [sayAll]

theorem sayAll_append (lines later : List String) :
    (sayAll (lines ++ later) : Call σ Unit) = sayAll lines >>= fun _ => sayAll later := by
  induction lines with
  | nil => simp [sayAll]
  | cons line lines ih => simp [sayAll, ih]

theorem forM_assign (entries : List (Attribute × String)) :
    (entries.forM fun (item, value) => assign item.name value : Call σ PUnit) =
      sayAll (entries.map fun (item, value) => assignment item.name value) := by
  induction entries with
  | nil => rfl
  | cons entry entries ih =>
      rw [List.map_cons, sayAll, ← ih]
      rfl

theorem make_addPlot (settings : Option PlotSettings) :
    ((addPlot settings).make : Call σ Unit) = sayAll (plotLines settings) := by
  rw [plotLines, sayAll_append, sayAll_singleton]
  cases settings with
  | none => rfl
  | some settings => rw [Option.elim_some, ← forM_assign]; rfl

theorem make_setKind {name : String} {kind : ChartKind} (h : ChartKind.ofName? name = some kind) :
    ((setKind name).make : Call σ Unit) = sayAll [assignment SettingName.graph kind.name] := by
  rw [make, Client.setKind, h, sayAll_singleton]
  rfl

theorem make_openChart {name : String} {kind : ChartKind} (h : ChartKind.ofName? name = some kind)
    (title : String) :
    ((openChart name title).make : Call σ Unit) = sayAll (chartLines title kind) := by
  have hmake : ((openChart name title).make : Call σ Unit) = Client.openChart name title := rfl
  rw [hmake, Client.openChart, Client.setKind, h, chartLines]
  cases title.isEmpty <;> simp [sayAll, Client.assign, Client.init, assignment]

end Saying

end ClientCall

end ChartBoard
