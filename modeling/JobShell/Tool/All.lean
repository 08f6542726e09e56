import JobShell.Script.Interpreter
import JobShell.Tool.Copy
import JobShell.Tool.Files
import JobShell.Tool.Filter
import JobShell.Tool.Gather
import JobShell.Tool.Grep
import JobShell.Tool.Md5
import JobShell.Tool.Sort

/-!
# The tools of a system

Every tool under its name.
-/

namespace JobShell.Tool

set_option autoImplicit false

def all : List Unix.Tool :=
  let usual := gathered .usual
  [("cat", cat), usual "chmod" chmod, usual "echo" echo,
   gathered (.withCode envFailure) "env" env, ("false", falseTool),
   gathered (.withCode 2) "grep" grep, gathered .naming "head" head, usual "ln" ln,
   gathered (.withCode 2) "ls" ls, gathered .byLine "md5sum" md5sum, usual "mkdir" mkdir,
   usual "printf" printf, usual "pwd" pwd, usual "readlink" readlink,
   gathered .loose "rev" rev, usual "rm" rm, usual "rmdir" rmdir, usual "seq" seq, ("sh", sh),
   ("sleep", sleep), ("sort", sort), usual "stat" stat, gathered .naming "tail" tail,
   ("tee", tee), usual "touch" touch, usual "tr" tr, ("true", trueTool), usual "uniq" uniq,
   gathered .byLine "wc" wc, ("yes", yes)]

end JobShell.Tool
