import PassTuner.Files

/-! Testing files: what there is in the place of a path. -/
namespace PassTuner.Files

/-- Places that stand for what a process reads from and writes to. -/
def ownPlaces : List Place := [["dev", "fd"], ["dev", "stdin"], ["dev", "stdout"], ["dev", "stderr"]]

/-- Places in which everyone takes away only what is their own. -/
def sharedPlaces : List Place := [["tmp"], ["var", "tmp"]]

/-- Whether what a path leads to has the property that a test stands for. -/
def satisfies (fs : Files) (directory : Place) (test path : String) : Bool :=
  match fs.locate directory path with
  | .error _ => false
  | .ok place =>
    match test, fs.node? place with
    | _, none => false
    | "-e", _ | "-r", _ | "-w", _ | "-O", _ | "-G", _ => true
    | "-h", _ | "-L", _ => ownPlaces.contains place || fs.isLink directory path
    | "-k", _ => sharedPlaces.contains place
    | "-f", some (.file _ _) | "-f", some .program => true
    | "-d", some .directory => true
    | "-x", some .directory | "-x", some .program | "-x", some (.file _ true) => true
    | "-s", some (.file content _) => !content.isEmpty
    | "-s", some .program | "-s", some .directory => true
    | "-c", some .null | "-c", some .zero | "-c", some .full | "-c", some .terminal => true
    | "-p", some .pipe => true
    | _, _ => false

def areSame (fs : Files) (directory : Place) (left right : String) : Bool :=
  match fs.locate directory left, fs.locate directory right with
  | .ok a, .ok b => a == b && (fs.node? a).isSome
  | _, _ => false

end PassTuner.Files
