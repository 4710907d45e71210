/-
Module: RouteAtlas.Segment
Purpose: Segments of a path and the URL a chain of them is written as.
Main exports: PathKind, ParamStyle, PathSegment, renderPath
-/

namespace RouteAtlas

/-- What a vertex of a route tree stands for in a URL. -/
inductive PathKind where
  | root
  | static
  | param
deriving Repr, DecidableEq, Inhabited

/-- How a URL writes a path variable. -/
inductive ParamStyle where
  /-- `/users/:id` -/
  | colon
  /-- `/users/` and the name in braces -/
  | braces
deriving Repr, DecidableEq, Inhabited

/-- One vertex of the chain that leads to an endpoint. -/
structure PathSegment where
  name : String
  kind : PathKind
deriving Repr, DecidableEq, Inhabited

namespace PathKind

/-- The name in dumps and messages. -/
def name : PathKind → String
  | .root => "root"
  | .static => "static"
  | .param => "param"

end PathKind

namespace PathSegment

/-- Whether a segment is part of the URL; a root is not. -/
def isVisible (segment : PathSegment) : Bool :=
  segment.kind != .root

/-- The text of one segment; a root has none. -/
def render (style : ParamStyle) (segment : PathSegment) : String :=
  match segment.kind, style with
  | .root, _ => ""
  | .static, _ => segment.name
  | .param, .colon => ":" ++ segment.name
  | .param, .braces => "\x7b" ++ segment.name ++ "\x7d"

end PathSegment

/-- Every visible segment after a slash. -/
def renderSegments (style : ParamStyle) : List PathSegment → List Char
  | [] => []
  | segment :: rest =>
      if segment.isVisible then
        '/' :: (segment.render style).toList ++ renderSegments style rest
      else
        renderSegments style rest

/-- The URL of a chain of segments; a chain without a visible one is `/`. -/
def renderPath (style : ParamStyle) (segments : List PathSegment) : String :=
  match renderSegments style segments with
  | [] => "/"
  | text => String.ofList text

end RouteAtlas
