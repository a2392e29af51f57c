/-!
# The bundled vocabulary and style

The layout engine needs to know the kinds and predicates that a program may use, and how to
draw them. These are the texts that are used unless others are given. They are passed on as
they are; nothing here interprets them.
-/

namespace PlaneFigure.Bundled

/-- The text with given lines, each of them ended. -/
def ofLines (lines : List String) : String := String.join (lines.map (· ++ "\n"))

/-- The kinds of objects and the predicates of plane geometry. -/
def domainSchema : String := ofLines
  ["type Point",
    "type Line",
    "type Circle",
    "",
    "predicate Between(Point a, Point b, Point c)",
    "predicate OnLine(Point a, Line L)",
    "predicate OnCircle(Point a, Circle C)",
    "predicate CenterCircle(Point a, Circle C)"]

/-- How points, lines and circles are drawn, and what the predicates ask of them. -/
def styleSheet : String := ofLines
  [r"canvas {",
    "  width = 400",
    "  height = 400",
    r"}",
    "",
    r"colors {",
    "  color black = #000000",
    "  color gray = #9aa0a6",
    "  color blue = #1a73e8",
    r"}",
    "",
    r"forall Point p {",
    "  vec2 p.pos = (?, ?)",
    r"  p.icon = Circle {",
    "    center : p.pos",
    "    r : 3",
    "    fillColor : colors.black",
    r"  }",
    r"  p.text = Equation {",
    "    string : p.label",
    "    fontSize : \"14px\"",
    r"  }",
    "  ensure contains(canvas, p.icon)",
    "  encourage near(p.text, p.icon)",
    "  ensure disjoint(p.text, p.icon, 2)",
    r"}",
    "",
    r"forall Line L {",
    "  vec2 L.start = (?, ?)",
    "  vec2 L.end = (?, ?)",
    r"  L.icon = Line {",
    "    start : L.start",
    "    end : L.end",
    "    strokeColor : colors.gray",
    "    strokeWidth : 1.5",
    r"  }",
    "  ensure lessThan(100, vdist(L.start, L.end))",
    "  ensure contains(canvas, L.icon)",
    r"}",
    "",
    r"forall Circle C {",
    "  vec2 C.center = (?, ?)",
    "  scalar C.r = ?",
    r"  C.icon = Circle {",
    "    center : C.center",
    "    r : C.r",
    "    fillColor : none()",
    "    strokeColor : colors.blue",
    "    strokeWidth : 1.5",
    r"  }",
    "  ensure lessThan(20, C.r)",
    "  ensure contains(canvas, C.icon)",
    r"}",
    "",
    "forall Point a; Point b; Point c",
    r"where Between(a, b, c) {",
    "  ensure collinearOrdered(a.pos, b.pos, c.pos)",
    "  ensure lessThan(20, vdist(a.pos, b.pos))",
    "  ensure lessThan(20, vdist(b.pos, c.pos))",
    r"}",
    "",
    "forall Point a; Line L",
    r"where OnLine(a, L) {",
    "  ensure collinear(L.start, a.pos, L.end)",
    "  ensure lessThan(10, vdist(a.pos, L.start))",
    "  ensure lessThan(10, vdist(a.pos, L.end))",
    r"}",
    "",
    "forall Point a; Circle C",
    r"where OnCircle(a, C) {",
    "  ensure equal(vdist(a.pos, C.center), C.r)",
    r"}",
    "",
    "forall Point a; Circle C",
    r"where CenterCircle(a, C) {",
    "  ensure equal(a.pos, C.center)",
    r"}"]

/-- The component that shows diagrams. -/
def component : String := "ProofWidgets.Penrose.Diagram"

end PlaneFigure.Bundled
