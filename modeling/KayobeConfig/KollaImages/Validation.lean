import KayobeConfig.Library.Loops
import KayobeConfig.KollaImages.Tags

/-!
`validate` for every release that `.gitreview` can name. The release is pasted into the
tag pattern unescaped, so the pattern of a release with metacharacters other than a dot
is left to Python's `re`, which is a parameter here.
-/

namespace KollaImages

open Library

inductive ValidateError
  | valueError
  | undeterminedRelease
  | badPattern
  deriving DecidableEq

/-- `re.compile(pattern).match`, or nothing where compiling raises. -/
abbrev Re := String → Option (String → Bool)

def releaseOfBranch (branch : String) : Option String :=
  if branch = "master" then some branch
  else ["stable/", "unmaintained/"].findSome? fun start =>
    if startswith branch start then some (String.ofList (branch.toList.drop start.length)) else none

/-- `get_openstack_release` on the lines of `.gitreview`. -/
def getOpenstackRelease : List String → Except ValidateError String
  | [] => .error .undeterminedRelease
  | line :: lines =>
      if '=' ∉ line.toList then getOpenstackRelease lines
      else
        match line.toList.splitOn '=' with
        | [key, value] =>
            if stripOf isSpace key = "defaultbranch".toList then
              match releaseOfBranch (String.ofList (stripOf isSpace value)) with
              | some release => .ok release
              | none => getOpenstackRelease lines
            else getOpenstackRelease lines
        | _ => .error .valueError

/-- The characters besides the dot that may mean something in a pattern. -/
def metacharacters : List Char :=
  ['\\', '^', '$', '*', '+', '?', '\x7b', '\x7d', '[', ']', '|', '(', ')']

def Dotted (release : String) : Prop := ∀ char ∈ release.toList, char ∉ metacharacters

instance (release : String) : Decidable (Dotted release) :=
  List.decidableBAll (fun char => char ∉ metacharacters) release.toList

/-- One entry of `tag_res`. -/
def compileTagRe (re : Re) (openstackRelease baseDistro : String) : Option (String → Bool) :=
  if Dotted openstackRelease then some (tagRe openstackRelease baseDistro)
  else re (tagPattern openstackRelease baseDistro)

def tagRes (re : Re) (openstackRelease : String) :
    Except ValidateError (List (String × (String → Bool))) :=
  supportedBaseDistros.mapM fun baseDistro =>
    match compileTagRe re openstackRelease baseDistro with
    | some tagRe => .ok (baseDistro, tagRe)
    | none => .error .badPattern

def tagErrors (compiled : List (String × (String → Bool)))
    (openstackRelease tagVar baseDistro tag : String) : List String :=
  match compiled.lookup baseDistro with
  | none => [tagVar ++ ": base distro " ++ baseDistro ++
      " not supported. Options: ['rocky-10', 'ubuntu-noble']"]
  | some tagRe =>
      if tagRe tag then []
      else [tagVar ++ ": " ++ baseDistro ++ ": tag " ++ tag ++
        " does not match expected pattern. It should match " ++
        tagPattern openstackRelease baseDistro]

def tagVarErrors (compiled : List (String × (String → Bool))) (openstackRelease tagVar : String)
    (baseDistros : Dict String String) : List String :=
  (if tagVarRe tagVar then []
  else ["Key " ++ tagVar ++ " does not match expected pattern. It should match " ++ tagVarPattern]) ++
    baseDistros.entries.flatMap fun entry => tagErrors compiled openstackRelease tagVar entry.1 entry.2

/-- The errors that `validate` prints before it exits, with the release it reads. -/
def validateErrors (re : Re) (gitreview : List String) (tags : KollaImageTags) :
    Except ValidateError (List String) := do
  let openstackRelease ← getOpenstackRelease gitreview
  let compiled ← tagRes re openstackRelease
  return (if (tags.get? "openstack").isSome then [] else ["Missing default openstack tag"]) ++
    tags.entries.flatMap fun entry => tagVarErrors compiled openstackRelease entry.1 entry.2

def Returns (re : Re) (gitreview : List String) (tags : KollaImageTags) : Prop :=
  validateErrors re gitreview tags = .ok []

end KollaImages
