/-! Text with styles for a terminal. A styled span is enclosed by the codes of its
style and a reset; a reset within the span is followed by the codes again, so that
the style holds to the end. Without colour a text is what it says. -/
namespace AttributePins

inductive Style where
  | bold
  | dimmed
  | green
  | blue
  | cyan
  /-- Bold yellow. -/
  | caution
  /-- Bold red. -/
  | alarm
  /-- Bold and underlined, by two codes. -/
  | heading
deriving DecidableEq, Repr

def Style.start : Style → List Char
  | .bold => "\x1b[1m".toList
  | .dimmed => "\x1b[2m".toList
  | .green => "\x1b[32m".toList
  | .blue => "\x1b[34m".toList
  | .cyan => "\x1b[36m".toList
  | .caution => "\x1b[1;33m".toList
  | .alarm => "\x1b[1;31m".toList
  | .heading => "\x1b[1m\x1b[4m".toList

def Style.reset : List Char := ['\x1b', '[', '0', 'm']

/-- A text with the style switched on again after each reset. -/
def Style.restarted (style : Style) : List Char → List Char
  | '\x1b' :: '[' :: '0' :: 'm' :: rest => reset ++ style.start ++ style.restarted rest
  | c :: rest => c :: style.restarted rest
  | [] => []

structure Span where
  text : String
  style : Option Style := none
deriving DecidableEq, Repr

instance : Coe String Span := ⟨fun text => ⟨text, none⟩⟩

def Style.span (style : Style) (text : String) : Span := ⟨text, some style⟩

/-- A span as it is written. An empty span has no codes. -/
def Span.render (colour : Bool) (span : Span) : String :=
  match span.style with
  | some style =>
    if colour && !span.text.isEmpty then
      String.ofList (style.start ++ style.restarted span.text.toList ++ Style.reset)
    else span.text
  | none => span.text

def renderSpans (colour : Bool) (spans : List Span) : String :=
  String.join (spans.map (Span.render colour))

end AttributePins
