/-!
The commands that the shell runs itself, with their names and their help texts. The first line of
a help text is the command's usage.
-/
namespace LineShell

inductive Builtin where
  | changeDir
  | clear
  | echo
  | exit
  | exportVars
  | help
  | jobs
  | printDir
  | unsetVars
  deriving DecidableEq, Repr

namespace Builtin

def all : List Builtin :=
  [.changeDir, .clear, .echo, .exit, .exportVars, .help, .jobs, .printDir, .unsetVars]

def name : Builtin → String
  | changeDir => "cd"
  | clear => "clear"
  | echo => "echo"
  | exit => "exit"
  | exportVars => "export"
  | help => "help"
  | jobs => "jobs"
  | printDir => "pwd"
  | unsetVars => "unset"

def ofName? (name : String) : Option Builtin :=
  all.find? fun builtin => builtin.name == name

def usage : Builtin → String
  | changeDir => "cd: cd [dir]"
  | clear => "clear: clear"
  | echo => "echo: echo [-n] [arg ...]"
  | exit => "exit: exit [n]"
  | exportVars => "export: export [name[=value] ...]"
  | help => "help: help [command ...]"
  | jobs => "jobs: jobs [-lp] [<jobspec>...]"
  | printDir => "pwd: pwd"
  | unsetVars => "unset: unset [name ...]"

/-- The usage section that faulty arguments of `jobs` are answered with. -/
def jobsUsage : String := "Usage:\n    jobs [options] [<jobspec>...]"

def details : Builtin → String
  | changeDir =>
      "    Change the current directory to DIR. The variable $HOME is the default dir.\n" ++
      "    If DIR is '-', then the current directory will be the variable $OLDPWD,\n" ++
      "    which is the last working directory."
  | clear =>
      "    Clear the terminal screen. Arguments are ignored."
  | echo =>
      "    Write the arguments to standard output, separated by single spaces and\n" ++
      "    followed by a newline. With -n the trailing newline is omitted."
  | exit =>
      "    Exit the shell with a status of N. If N is omitted, the exit status\n" ++
      "    is that of the last command executed. N is taken modulo 256."
  | exportVars =>
      "    Set each NAME in the environment of the shell and of the programs it\n" ++
      "    starts. Without arguments, print every exported variable."
  | help =>
      "    Display helpful information about builtin commands. If COMMAND is specified,\n" ++
      "    gives detailed help on all commands matching COMMAND, otherwise a list of the\n" ++
      "    builtins is printed."
  | jobs =>
      "\nDisplay status of jobs.\n\n" ++ jobsUsage ++ "\n\n" ++
      "Lists the background jobs. JOBSPEC restricts output to that job.\n" ++
      "Without options, the status of all background jobs is displayed.\n\n" ++
      "Options:\n" ++
      "    -l      lists process IDs in addition to the normal information\n" ++
      "    -p      lists process IDs only\n\n" ++
      "Exit Status:\n" ++
      "Returns success unless an invalid option is given or a JOBSPEC is not found."
  | printDir =>
      "    Print the name of the current working directory."
  | unsetVars =>
      "    For each name, remove the corresponding variable."

def helpText (builtin : Builtin) : String :=
  builtin.usage ++ "\n" ++ builtin.details

theorem ofName?_name (builtin : Builtin) : ofName? builtin.name = some builtin := by
  cases builtin <;> decide

end Builtin

end LineShell
