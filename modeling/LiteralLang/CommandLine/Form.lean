import LiteralLang.Text

/-! The forms of the command line: the main form and those of its two subcommands, each with its
switches, its usage and its help. -/
namespace LiteralLang.CommandLine

inductive Switch
  | help | interactive | code | file | separator | log | verbose | ast | desugared
deriving DecidableEq

namespace Switch

def short? : Switch → Option Char
  | help => some 'h'
  | interactive => some 'i'
  | code => some 'c'
  | file => some 'e'
  | ast => some 'a'
  | desugared => some 'd'
  | separator | log | verbose => none

def long : Switch → Text
  | help => "--help"
  | interactive => "--interactive"
  | code => "--command"
  | file => "--export"
  | separator => "--separator"
  | log => "--log"
  | verbose => "--verbose"
  | ast => "--ast"
  | desugared => "--desugared"

def takesValue : Switch → Bool
  | code | file | separator | log => true
  | help | interactive | verbose | ast | desugared => false

/-- The switch that must not stand beside this one. -/
def rival? : Switch → Option Switch
  | ast => some desugared
  | desugared => some ast
  | _ => none

/-- How messages name a switch. -/
def label (s : Switch) : Text :=
  match s.short? with
  | some c => '-' :: c :: '/' :: s.long
  | none => s.long

end Switch

inductive Form
  | main | repl | print
deriving DecidableEq

namespace Form

def program : Form → Text
  | main => "bestlang"
  | repl => "bestlang repl"
  | print => "bestlang print"

def switches : Form → List Switch
  | main => [.help, .interactive, .code, .file, .separator, .log, .verbose]
  | repl => [.help]
  | print => [.help, .ast, .desugared]

/-- Only the main form has a subcommand. -/
def hasSubcommand : Form → Bool
  | main => true
  | repl | print => false

def usage : Form → Text
  | main =>
    "usage: bestlang [-h] [-i] [-c CODE] [-e FILE] [--separator SEPARATOR]\n" ++
    "                [--log FILE] [--verbose]\n" ++
    "                \x7brepl,print\x7d ...\n"
  | repl => "usage: bestlang repl [-h]\n"
  | print => "usage: bestlang print [-h] [-a | -d]\n"

def description : Form → Text
  | main =>
    "\nBestLang - a literal language that compiles to JavaScript\n" ++
    "\npositional arguments:\n" ++
    "  \x7brepl,print\x7d          Available commands\n" ++
    "    repl                Start the interactive REPL\n" ++
    "    print               Start a REPL that prints the AST instead of code\n" ++
    "\noptions:\n" ++
    "  -h, --help            show this help message and exit\n" ++
    "  -i, --interactive     Start the REPL (default when no command is given)\n" ++
    "  -c CODE, --command CODE\n" ++
    "                        Compile BestLang code directly and print the\n" ++
    "                        JavaScript\n" ++
    "  -e FILE, --export FILE\n" ++
    "                        Compile a BestLang file and print the JavaScript\n" ++
    "  --separator SEPARATOR\n" ++
    "                        Text placed between top-level expressions in the\n" ++
    "                        output\n" ++
    "  --log FILE            Log file for REPL evaluations\n" ++
    "  --verbose             Print tracebacks for errors\n" ++
    "\nexamples:\n" ++
    "  bestlang                      Start interactive REPL\n" ++
    "  bestlang repl                 Start interactive REPL (explicit)\n" ++
    "  bestlang print -a             REPL that prints the AST\n" ++
    "  bestlang print -d             REPL that prints the desugared AST\n" ++
    "  bestlang -c ':hello'          Compile code directly\n" ++
    "  bestlang -e script.best       Compile a file to JavaScript\n" ++
    "        \n"
  | repl =>
    "\noptions:\n" ++
    "  -h, --help  show this help message and exit\n"
  | print =>
    "\noptions:\n" ++
    "  -h, --help       show this help message and exit\n" ++
    "  -a, --ast        Print the parsed AST\n" ++
    "  -d, --desugared  Print the desugared AST\n"

def helpText (f : Form) : Text := f.usage ++ f.description

def short? (f : Form) (c : Char) : Option Switch := f.switches.find? (·.short? = some c)

end Form
end LiteralLang.CommandLine
