import ChartBoard.Proofs.Chart.AddedPlots
import ChartBoard.Proofs.Chart.FiniteNumbers

/-!
Attributes and their texts. An attribute is read from a text as a value of its own type
(`Attribute.read?`); setting it stores this value and leaves the other attributes alone, or is
refused if there is no such value (`Attributes.put_cases`). The text in which an attribute is
written is read as its value, as the numbers are finite in whatever can be reached by setting
attributes. So setting an attribute to its own text changes nothing, and the texts of all of them
make the same attributes of any others (`Attributes.texts_set_back`).
-/

namespace ChartBoard

open Text

/-- What an attribute holds. -/
inductive AttributeValue where
  | words (text : String)
  | flag (flag : Bool)
  | number (x : Binary64)
  | word32 (n : UInt32)
  | word64 (n : UInt64)
deriving DecidableEq

namespace Attribute

/-- The form of value that an attribute takes. There is none for names, which take any text. -/
def form? : Attribute → Option ValueForm
  | plotTitle | plotName | xAxisName | yAxisName => none
  | enableLines | enableShapes | enableAutoscale | enableLogYAxis | enableZeroOnXScale
  | enableZeroOnYScale | enableLegend => some .flag
  | minScaleValue | maxScaleValue => some .number
  | maxAgeSeconds | tickCount | lineWidth => some .count

/-- The value that a text stands for. -/
def read? (text : String) : Attribute → Option AttributeValue
  | plotTitle | plotName | xAxisName | yAxisName => some (.words text)
  | enableLines | enableShapes | enableAutoscale | enableLogYAxis | enableZeroOnXScale
  | enableZeroOnYScale | enableLegend => (Attributes.readFlag? text).map .flag
  | minScaleValue | maxScaleValue => (Attributes.readNumber? text).map .number
  | maxAgeSeconds => (Attributes.readWord64? text).map .word64
  | tickCount | lineWidth => (Attributes.readWord32? text).map .word32

end Attribute

theorem Attribute.ofName?_eq_some_iff {name : String} {item : Attribute} :
    ofName? name = some item ↔ item.name = name := by
  constructor
  · intro h
    simpa using List.find?_some h
  · rintro rfl
    exact ofName?_name item

theorem Attribute.name_injective : Function.Injective name := by
  intro first second h
  have hname := ofName?_name first
  rw [h, ofName?_name] at hname
  exact (Option.some.inj hname).symm

namespace Attributes

def value (a : Attributes) : Attribute → AttributeValue
  | .plotTitle => .words a.plotTitle
  | .plotName => .words a.plotName
  | .xAxisName => .words a.xAxisName
  | .yAxisName => .words a.yAxisName
  | .enableLines => .flag a.lines
  | .enableShapes => .flag a.shapes
  | .enableAutoscale => .flag a.autoscale
  | .minScaleValue => .number a.minScale
  | .maxScaleValue => .number a.maxScale
  | .maxAgeSeconds => .word64 a.maxAgeSeconds
  | .enableLogYAxis => .flag a.logY
  | .enableZeroOnXScale => .flag a.zeroOnX
  | .enableZeroOnYScale => .flag a.zeroOnY
  | .enableLegend => .flag a.legend
  | .tickCount => .word32 a.tickCount
  | .lineWidth => .word32 a.lineWidth

/-- Attributes are told by the values of all of them. -/
theorem eq_of_values {a b : Attributes} (h : ∀ item, a.value item = b.value item) : a = b := by
  have hall : Attribute.all.map a.value = Attribute.all.map b.value :=
    List.map_congr_left fun item _ => h item
  cases a
  cases b
  simpa [Attribute.all, value] using hall

/-- The same attributes but for the value of one of them. -/
def With (item : Attribute) (value : AttributeValue) (a b : Attributes) : Prop :=
  b.value item = value ∧ ∀ other, other ≠ item → b.value other = a.value other

theorem With.eq_self {item : Attribute} {a b : Attributes} (h : a.With item (a.value item) b) :
    b = a := by
  refine eq_of_values fun other => ?_
  by_cases hother : other = item
  · rw [hother, h.1]
  · exact h.2 other hother

/-- What comes of setting an attribute. -/
inductive Put (item : Attribute) (text : String) (a : Attributes) :
    Except ValueForm Attributes → Prop where
  | stores {value : AttributeValue} {b : Attributes} (hread : item.read? text = some value)
      (hwith : a.With item value b) : Put item text a (.ok b)
  | refuses {form : ValueForm} (hread : item.read? text = none) (hform : item.form? = some form) :
      Put item text a (.error form)

theorem put_cases (item : Attribute) (text : String) (a : Attributes) :
    Put item text a (a.put item text) := by
  cases item with
  | plotTitle | plotName | xAxisName | yAxisName =>
      refine .stores rfl ⟨rfl, fun other hother => ?_⟩
      cases other <;> first | rfl | exact absurd rfl hother
  | enableLines | enableShapes | enableAutoscale | minScaleValue | maxScaleValue | maxAgeSeconds
  | enableLogYAxis | enableZeroOnXScale | enableZeroOnYScale | enableLegend | tickCount
    | lineWidth =>
      unfold put
      dsimp only
      split
      · rename_i hread
        refine .stores (congrArg (Option.map _) hread) ⟨rfl, fun other hother => ?_⟩
        cases other <;> first | rfl | exact absurd rfl hother
      · rename_i hread
        exact .refuses (congrArg (Option.map _) hread) rfl

/-- What comes of setting the attribute of a name. -/
inductive WasSet (name text : String) (a : Attributes) : Except Refusal Attributes → Prop where
  | unknown (hname : Attribute.ofName? name = none) :
      WasSet name text a (.error (.unknownAttribute name text))
  | refuses {item : Attribute} {form : ValueForm} (hname : item.name = name)
      (hread : item.read? text = none) (hform : item.form? = some form) :
      WasSet name text a (.error (.invalidValue name text form))
  | stores {item : Attribute} {value : AttributeValue} {b : Attributes} (hname : item.name = name)
      (hread : item.read? text = some value) (hwith : a.With item value b) :
      WasSet name text a (.ok b)

theorem wasSet (name text : String) (a : Attributes) : WasSet name text a (a.set name text) := by
  unfold set
  split
  · rename_i hname
    exact .unknown hname
  · rename_i item hitem
    have hname : item.name = name := Attribute.ofName?_eq_some_iff.mp hitem
    have hput := put_cases item text a
    generalize a.put item text = outcome at hput
    cases hput with
    | stores hread hwith => exact .stores hname hread hwith
    | refuses hread hform => exact .refuses hname hread hform

/-- An attribute is set to the value that a text stands for. -/
theorem exists_set_of_read? {item : Attribute} {text : String} {value : AttributeValue}
    (hread : item.read? text = some value) (a : Attributes) :
    ∃ b, a.set item.name text = .ok b ∧ a.With item value b := by
  have hset := wasSet item.name text a
  generalize a.set item.name text = outcome at hset ⊢
  cases hset with
  | unknown hname =>
      rw [Attribute.ofName?_name] at hname
      cases hname
  | refuses hname hread' =>
      obtain rfl := Attribute.name_injective hname
      rw [hread] at hread'
      cases hread'
  | stores hname hread' hwith =>
      obtain rfl := Attribute.name_injective hname
      obtain rfl := Option.some.inj (hread.symm.trans hread')
      exact ⟨_, rfl, hwith⟩

/-- Every attribute is written so that it is read as its value. -/
theorem read?_text {a : Attributes} (h : a.AllFinite) (item : Attribute) :
    item.read? (a.text item) = some (a.value item) := by
  cases item with
  | plotTitle | plotName | xAxisName | yAxisName => rfl
  | enableLines | enableShapes | enableAutoscale | enableLogYAxis | enableZeroOnXScale
  | enableZeroOnYScale | enableLegend => exact congrArg (Option.map _) (readFlag?_flagText _)
  | minScaleValue => exact congrArg (Option.map _) (readNumber?_text h.minScale)
  | maxScaleValue => exact congrArg (Option.map _) (readNumber?_text h.maxScale)
  | maxAgeSeconds => exact congrArg (Option.map _) (readWord64?_toString _)
  | tickCount | lineWidth => exact congrArg (Option.map _) (readWord32?_toString _)

theorem eq_flagText_of_readFlag? {text : String} {flag : Bool} (h : readFlag? text = some flag) :
    text = flagText flag := by
  unfold readFlag? at h
  split at h
  · cases h
    assumption
  · split at h
    · cases h
      assumption
    · cases h

/-- Names and flags have one text only. Numbers have many: `+7` and `007` are both `7`. -/
theorem text_eq_of_read? {a : Attributes} {item : Attribute} {text : String}
    (hform : item.form? = none ∨ item.form? = some .flag)
    (hread : item.read? text = some (a.value item)) : a.text item = text := by
  cases item with
  | plotTitle | plotName | xAxisName | yAxisName =>
      exact (AttributeValue.words.inj (Option.some.inj hread)).symm
  | enableLines | enableShapes | enableAutoscale | enableLogYAxis | enableZeroOnXScale
  | enableZeroOnYScale | enableLegend =>
      obtain ⟨flag, hflag, hvalue⟩ := Option.map_eq_some_iff.mp hread
      rw [eq_flagText_of_readFlag? hflag, AttributeValue.flag.inj hvalue]
      rfl
  | minScaleValue | maxScaleValue | maxAgeSeconds | tickCount | lineWidth =>
      rcases hform with hform | hform <;> cases hform

/-- Set attributes by name one after the other, up to the first that is refused. -/
def setAll (entries : List (String × String)) (a : Attributes) : Except Refusal Attributes :=
  entries.foldlM (fun a (name, text) => a.set name text) a

/-- The attributes after some of them have been set by name; those that are refused stay as they
are. -/
def afterSets (calls : List (String × String)) (a : Attributes) : Attributes :=
  calls.foldl (fun a (name, text) => (a.set name text).toOption.getD a) a

theorem AllFinite.afterSets {a : Attributes} (h : a.AllFinite) (calls : List (String × String)) :
    (a.afterSets calls).AllFinite := by
  induction calls generalizing a with
  | nil => exact h
  | cons call calls ih =>
      refine ih ?_
      dsimp only
      cases hset : a.set call.1 call.2 with
      | ok b => exact h.set hset
      | error refusal => exact h

/-- Setting attributes to the texts that they have elsewhere gives them the values from there, and
leaves the others alone. -/
theorem setAll_texts {source : Attributes} (h : source.AllFinite) (entries : List (String × String))
    (htexts : ∀ entry ∈ entries, source.get? entry.1 = some entry.2) (a : Attributes) :
    ∃ b, a.setAll entries = .ok b ∧ ∀ item, b.value item = source.value item ∨
      item.name ∉ entries.map Prod.fst ∧ b.value item = a.value item := by
  induction entries generalizing a with
  | nil => exact ⟨a, rfl, fun item => .inr ⟨List.not_mem_nil, rfl⟩⟩
  | cons entry entries ih =>
      rw [List.forall_mem_cons] at htexts
      obtain ⟨item, hitem, htext⟩ := Option.map_eq_some_iff.mp htexts.1
      have hname := Attribute.ofName?_eq_some_iff.mp hitem
      obtain ⟨c, hset, hwith⟩ : ∃ c, a.set entry.1 entry.2 = .ok c ∧
          a.With item (source.value item) c := by
        rw [← hname, ← htext]
        exact exists_set_of_read? (read?_text h item) a
      obtain ⟨b, hall, hvalues⟩ := ih htexts.2 c
      refine ⟨b, ?_, fun other => ?_⟩
      · rw [setAll, List.foldlM_cons]
        dsimp only
        rw [hset]
        exact hall
      · obtain hvalue | ⟨hother, hkept⟩ := hvalues other
        · exact .inl hvalue
        · rw [hkept]
          by_cases hsame : other = item
          · exact .inl (hsame ▸ hwith.1)
          · refine .inr ⟨?_, hwith.2 other hsame⟩
            rw [List.map_cons, List.mem_cons, ← hname]
            exact fun hmem => hmem.elim (fun heq => hsame (Attribute.name_injective heq)) hother

/-- An attribute that is set to its own text stays as it is, and so do the others. -/
theorem set_text {a : Attributes} (h : a.AllFinite) (item : Attribute) :
    a.set item.name (a.text item) = .ok a := by
  obtain ⟨b, hset, hwith⟩ := exists_set_of_read? (read?_text h item) a
  rw [hset, hwith.eq_self]

theorem get?_name (item : Attribute) (a : Attributes) : a.get? item.name = some (a.text item) := by
  rw [get?, Attribute.ofName?_name, Option.map_some]

theorem setAll_rebuilds {source : Attributes} (h : source.AllFinite)
    {entries : List (String × String)}
    (htexts : ∀ entry ∈ entries, source.get? entry.1 = some entry.2)
    (hall : ∀ item : Attribute, item.name ∈ entries.map Prod.fst) (a : Attributes) :
    a.setAll entries = .ok source := by
  obtain ⟨b, hset, hvalues⟩ := setAll_texts h entries htexts a
  rw [hset, eq_of_values fun item => (hvalues item).resolve_right fun hkept => hkept.1 (hall item)]

/-- After any attributes have been set from the default ones, with any of the calls refused: a name
that is set is that of an attribute, the other attributes stay as they are, and this one has a text,
the given one if it is a name or a flag, that sets it to what it is. A call is refused as naming no
attribute if there is no text under the name and as having no value of the right form otherwise, and
a chart with these attributes is left as it was. The texts of all attributes, in any order, set any
attributes to these. -/
theorem texts_set_back (calls : List (String × String)) (name text : String) :
    let a := ({} : Attributes).afterSets calls
    (∀ b, a.set name text = .ok b → ∃ item : Attribute, item.name = name ∧
      (∀ other, other ≠ item → b.value other = a.value other) ∧
      ∃ t, b.get? name = some t ∧ b.set name t = .ok b ∧
        (item.form? = none ∨ item.form? = some .flag → t = text)) ∧
    (∀ refusal, a.set name text = .error refusal →
      (∀ chart : Chart, chart.attributes = a →
        chart.call (.setAttribute name text) = (.refused refusal, chart)) ∧
      (refusal = .unknownAttribute name text ↔ a.get? name = none) ∧
      (a.get? name ≠ none → ∃ form, refusal = .invalidValue name text form)) ∧
    ∀ entries start, (∀ entry ∈ entries, a.get? entry.1 = some entry.2) →
      (∀ item : Attribute, item.name ∈ entries.map Prod.fst) →
      Attributes.setAll entries start = .ok a := by
  intro a
  have hfinite : a.AllFinite := allFinite_default.afterSets calls
  refine ⟨fun b hset => ?_, fun refusal hset => ⟨fun chart hchart => ?_, ?_⟩,
    fun entries start htexts hall => setAll_rebuilds hfinite htexts hall start⟩
  · have hfinite' : b.AllFinite := hfinite.set hset
    have hcase := wasSet name text a
    rw [hset] at hcase
    cases hcase with
    | @stores item _ _ hname hread hwith =>
        subst hname
        rw [← hwith.1] at hread
        exact ⟨item, rfl, hwith.2, b.text item, b.get?_name item, set_text hfinite' item,
          fun hform => text_eq_of_read? hform hread⟩
  · change chart.conclude .done (Chart.setAttribute name text) = _
    rw [Chart.conclude, Chart.setAttribute, hchart, hset]
    rfl
  · have hcase := wasSet name text a
    rw [hset] at hcase
    cases hcase with
    | unknown hname =>
        have hnone : a.get? name = none := by rw [get?, hname, Option.map_none]
        exact ⟨⟨fun _ => hnone, fun _ => rfl⟩, fun hsome => absurd hnone hsome⟩
    | refuses hname hread hform =>
        subst hname
        rw [get?_name]
        exact ⟨⟨nofun, nofun⟩, fun _ => ⟨_, rfl⟩⟩

example :
    let after := ({} : Attributes).afterSets [("tick_count", "+007"), ("line_width", "-1")]
    after.get? "tick_count" = some "7" := by
  decide

end Attributes

end ChartBoard
