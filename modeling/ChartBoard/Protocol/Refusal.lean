import ChartBoard.Calendar.Timestamp
import ChartBoard.Protocol.ChartKind

/-!
Why a line is refused. A refusal names its cause; its message is the text of the
error reply.
-/

namespace ChartBoard

/-- What is wrong with a line that cannot be read. -/
inductive LineFault where
  | noAssignment
  | noName
  | noOperand (keyword : String)
  | extraOperand (keyword : String)
  | notFlag (word : String)
  | notNumber (word : String)
  | notIndex (word : String)
  | notTriple (word : String)
  | notTimedValue
  | notTimestamp (text : String) (fault : TimestampFault)
  | notGrid
  | notDimension (word : String)
deriving DecidableEq

namespace LineFault

def quoted (word : String) : String := "'" ++ word ++ "'"

def reason : LineFault → String
  | noAssignment => "expected set name=value"
  | noName => "missing attribute name"
  | noOperand keyword => keyword ++ " needs an argument"
  | extraOperand keyword => keyword ++ " takes a single argument"
  | notFlag word => quoted word ++ " is not one of 0, 1, false, true, no, yes"
  | notNumber word => quoted word ++ " is not a number"
  | notIndex word => quoted word ++ " is not a plot index"
  | notTriple word => quoted word ++ " is not a plot:x:y triple"
  | notTimedValue => "expected plot:year;month;day;hour;minute;second;millisecond:value"
  | notTimestamp text fault => fault.message text
  | notGrid => "expected grid=rows,columns"
  | notDimension word => quoted word ++ " is not a positive grid dimension"

end LineFault

/-- What an attribute takes. -/
inductive ValueForm where
  | flag
  | number
  | count
deriving DecidableEq

def ValueForm.description : ValueForm → String
  | flag => "true or false"
  | number => "a number"
  | count => "a non-negative integer"

/-- What a line asks for that its session is not ready to do. -/
inductive Action where
  | setAttributes
  | init
  | addPlot
  | clearPlot
  | replot
  | addValues
deriving DecidableEq

def Action.description : Action → String
  | setAttributes => "set attributes"
  | init => "init"
  | addPlot => "add a plot"
  | clearPlot => "clear a plot"
  | replot => "replot"
  | addValues => "add plot values"

/-- The three ways of giving values to plots. -/
inductive DataForm where
  | sequential
  | point
  | timed
deriving DecidableEq

def DataForm.description : DataForm → String
  | sequential => "adding sequential values"
  | point => "adding x/y values"
  | timed => "adding timestamped values"

/-- Why a line is refused. -/
inductive Refusal where
  | unreadable (line : String) (fault : LineFault)
  | unknownAttribute (name value : String)
  | invalidValue (name value : String) (expected : ValueForm)
  | unknownKind (text : String)
  | noKind (action : Action)
  | notInitialized (action : Action)
  | noSuchPlot (kind : ChartKind) (index count : Nat)
  | tooManyPlots (kind : ChartKind) (most : Nat)
  | unsupported (kind : ChartKind) (form : DataForm)
  | gridTooLarge (rows columns most : Nat)
deriving DecidableEq

namespace Refusal

def message : Refusal → String
  | unreadable line fault => "unable to parse '" ++ line ++ "': " ++ fault.reason
  | unknownAttribute name value =>
      name ++ " is an unknown attribute (value=" ++ value ++ ")"
  | invalidValue name value expected =>
      value ++ " is an invalid value for " ++ name ++ ", must be " ++ expected.description
  | unknownKind text => ChartKind.unknownMessage text
  | noKind action =>
      "cannot " ++ action.description ++
        " before a graph type has been set (set graph=time|bar|xy|dial)"
  | notInitialized action =>
      "cannot " ++ action.description ++ " as the plot has not been initialised yet"
  | noSuchPlot kind index count =>
      kind.name ++ " plot " ++ toString index ++ " does not exist (" ++
        toString count ++ " plot(s) added)"
  | tooManyPlots kind most =>
      "a " ++ kind.name ++ " chart holds at most " ++ toString most ++ " plot(s)"
  | unsupported kind form =>
      form.description ++ " is not supported on a " ++ kind.name ++ " chart"
  | gridTooLarge rows columns most =>
      "cannot have a chart grid of " ++ toString rows ++ " by " ++ toString columns ++
        " as the max chart count is " ++ toString most

end Refusal

end ChartBoard
