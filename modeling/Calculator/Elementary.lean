/-! The elementary functions that a calculation takes from a library of mathematics. Nothing is
assumed of them here; the value of a whole expression is checked to be finite. -/
namespace Calculator

structure Elementary where
  sin : Float → Float
  cos : Float → Float
  tan : Float → Float
  ln : Float → Float
  log10 : Float → Float
  sqrt : Float → Float
  power : Float → Float → Float

/-- The functions of the machine. -/
def Elementary.native : Elementary :=
  { sin := Float.sin, cos := Float.cos, tan := Float.tan
    ln := Float.log, log10 := Float.log10
    sqrt := Float.sqrt, power := Float.pow }

end Calculator
