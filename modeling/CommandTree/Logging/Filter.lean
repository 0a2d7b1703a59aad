import CommandTree.Logging.Directive
import CommandTree.Logging.Setup

/-!
Filters, which let reports through. Of the directives about a report the most specific one decides; inside
a span that some directive is about, its level is enough as well.
-/

namespace CommandTree.Logging

open Text

/-- The directives about reports and those about spans, and the widest limit that any directive has ever
had. -/
structure Filter where
  reports : List Directive
  spans : List Directive
  widestLimit : Limit

namespace Filter

def empty : Filter := ⟨[], [], none⟩

def isSameScope (d e : Directive) : Bool :=
  d.target == e.target && d.fieldNames == e.fieldNames

def isSameSpan (d e : Directive) : Bool :=
  d.target == e.target && d.span == e.span && d.demands == e.demands

def addReport (f : Filter) (d : Directive) : Filter :=
  { f with
    reports := f.reports.filter (!isSameScope d ·) ++ [d]
    widestLimit := widest f.widestLimit d.limit }

def addSpan (f : Filter) (d : Directive) : Filter :=
  { f with
    spans := f.spans.filter (!isSameSpan d ·) ++ [d]
    widestLimit := widest f.widestLimit d.limit }

def add (f : Filter) (d : Directive) : Filter :=
  if d.isStatic then f.addReport d else f.addSpan d

/-- The filter of these directives. One that names fields but no span and no content is about reports as well
as about spans. -/
def ofDirectives (ds : List Directive) : Filter :=
  let dynamic := ds.filter (·.isDynamic)
  let reports := ds.filter (!·.isDynamic) ++ dynamic.filter (·.isStatic)
  dynamic.foldl addSpan (reports.foldl addReport empty)

def upTo (limit : Limit) : Filter :=
  ofDirectives [⟨none, none, [], limit⟩]

def read (text : String) : Except Directive.Fault Filter :=
  let parts := ((pieces (· == ',') text.toList).map String.ofList).filter (!·.isEmpty)
  (parts.mapM Directive.read).map ofDirectives

def moreSpecific (best : Option Directive) (d : Directive) : Option Directive :=
  match best with
  | some b => if d.isMoreSpecific b then some d else some b
  | none => some d

def admitsBy (ds : List Directive) (level : Level) : Bool :=
  match ds.foldl moreSpecific none with
  | some d => admits d.limit level
  | none => false

def admitsReport (f : Filter) (r : Record) : Bool :=
  admitsBy (f.reports.filter (·.coversReport r)) r.level

def admitsWithin (f : Filter) (limits : List Limit) (r : Record) : Bool :=
  limits.any (admits · r.level) || f.admitsReport r

def about (f : Filter) (span : Record) : List Directive :=
  f.spans.filter (·.coversSpan span)

def limitsInside (f : Filter) (span : Record) : List Limit :=
  ((f.about span).filter (·.isMetBy span)).map (·.limit)

/-- The limit beyond which spans are not even looked at. Where a directive asks for the content of a field,
none is. -/
def reach (f : Filter) : Limit :=
  if f.spans.any (·.asksContent) then some .trace else f.widestLimit

/-- Whether a span is let through inside spans with these limits. The fields that directives about reports
name do not count here. -/
def admitsSpan (f : Filter) (limits : List Limit) (span : Record) : Bool :=
  admits f.reach span.level
    && (!(f.about span).isEmpty || limits.any (admits · span.level)
      || admitsBy (f.reports.filter (·.coversSource span.target)) span.level)

def addWritten (f : Filter) (text : String) : Except Directive.Fault Filter :=
  match Directive.read text with
  | .ok d => .ok (f.add d)
  | .error .malformed => .ok f
  | .error .broken => .error .broken

end Filter

/-- The filter of a setup. Directives in the environment take the place of the level unless they are
malformed, and those of the setup are added. A broken directive leaves no filter. -/
def Setup.filter? (s : Setup) (environment : Option String) : Option Filter :=
  let base : Except Directive.Fault Filter :=
    match environment.map Filter.read with
    | some (.ok f) => .ok f
    | some (.error .broken) => .error .broken
    | _ => .ok (.upTo (some s.level))
  (base.bind fun f => s.directives.foldlM Filter.addWritten f).toOption

end CommandTree.Logging
