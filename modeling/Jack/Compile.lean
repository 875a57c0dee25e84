import Jack.Diagnostic
import Jack.Parse.ClassDec
import Jack.Token.Split

namespace Jack

structure Analysis where
  className : String
  tokens : List Token
  declaration : ClassDec
deriving Repr

def Analysis.tree (analysis : Analysis) : Node :=
  analysis.declaration.node

structure Compilation extends Analysis where
  vm : String
deriving Repr

def unnamedFile : String :=
  "shell"

def Fault.inFile (fault : Fault) (file? : Option String) : Diagnostic :=
  { fault with file := file?.getD unnamedFile }

section

variable {ε : Type} [Emitter ε]

def parseWith (emitter : ε) (tokens : List Token) : Reply ClassDec ε :=
  (ParseState.startWith emitter tokens).unit.reply

/-- Reads a class from a source. The emitter comes back with the code of the class. -/
def readUnit (emitter : ε) (source : String) : Except Fault (Analysis × ε) :=
  match tokenize source with
  | .error fault => .error fault
  | .ok tokens =>
    match parseWith emitter tokens with
    | .ok declaration s => .ok (⟨s.className, tokens, declaration⟩, s.emitted)
    | .error fault _ => .error fault

end

def parse (tokens : List Token) : Reply ClassDec :=
  parseWith [] tokens

def analyze (source : String) (file? : Option String) : Except Diagnostic Analysis :=
  match readUnit Silent.mk source with
  | .ok (analysis, _) => .ok analysis
  | .error fault => .error (fault.inFile file?)

def compile (source : String) (file? : Option String) : Except Diagnostic Compilation :=
  match readUnit TextWriter.empty source with
  | .ok (analysis, writer) => .ok { analysis with vm := writer.output }
  | .error fault => .error (fault.inFile file?)

end Jack
