import AttributePins.Log.Directive

/-! Which log records are shown. A filter is a list of directives. Of those that apply
to a record the narrowest counts, and of equal ones the last. -/
namespace AttributePins.Log

structure Filter where
  directives : List Directive
deriving DecidableEq, Repr

namespace Filter

def level (threshold : Threshold) : Filter := ⟨[{ threshold := threshold }]⟩

/-- Read a filter: directives between commas, where empty ones do not count. -/
def ofText? (text : String) : Option Filter :=
  let pieces := (text.toList.splitOn ',').filter (· ≠ [])
  (pieces.mapM Directive.ofText?).map Filter.mk

def directiveFor? (filter : Filter) (record : Record) : Option Directive :=
  (filter.directives.filter (·.appliesTo record)).foldl
    (fun best directive =>
      if best.any (·.isNarrower directive) then best else some directive)
    none

def shows (filter : Filter) (record : Record) : Bool :=
  (filter.directiveFor? record).any (·.threshold.admits record.level)

/-- The filter of a setting that may be absent. One that cannot be read counts as
absent; then warnings are shown, and more if the run is verbose. -/
def ofSetting (setting : Option String) (verbose : Bool) : Filter :=
  match setting.bind ofText? with
  | some filter => filter
  | none => level (if verbose then .info else .warn)

end Filter
end AttributePins.Log
