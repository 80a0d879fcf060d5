import KayobeConfig.Library.Dict
import KayobeConfig.Library.Text

/-!
Kolla image tags as `tools/kolla-images.py` resolves them: the exception tables,
the parent of a tag variable, the tag of a container, tag validation, the checks
against Kolla Ansible and the tag variables written to `globals.yml`.
-/

namespace KollaImages

open Library

abbrev KollaImageTags := Dict String (Dict String String)

def imageToContainersExceptions : List (String × List String) := [
  ("dnsmasq", ["ironic_dnsmasq"]),
  ("haproxy", ["glance_tls_proxy", "haproxy", "neutron_tls_proxy"]),
  ("httpd", ["ironic_http", "keystone_httpd", "letsencrypt_webserver"]),
  ("mariadb-server", ["mariadb", "mariabackup"]),
  ("neutron-mlnx-agent", ["neutron_eswitchd", "neutron_mlnx_agent"]),
  ("neutron-metadata-agent", ["neutron_metadata_agent", "neutron_ovn_metadata_agent"]),
  ("nova-conductor", ["nova_super_conductor", "nova_conductor"]),
  ("openvswitch-db-server", ["openvswitch_db"]),
  ("ovn-nb-db-server", ["ovn_nb_db"]),
  ("ovn-sb-db-server", ["ovn_sb_db"]),
  ("prometheus-server", ["prometheus_server"]),
  ("valkey-server", ["valkey"])
]

def containerToPrefixVarExceptions : List (String × String) := [
  ("glance_tls_proxy", "haproxy"),
  ("hacluster_pacemaker_remote", "hacluster"),
  ("heat_api_cfn", "heat"),
  ("ironic_neutron_agent", "neutron"),
  ("ironic_pxe_filter", "ironic"),
  ("neutron_eswitchd", "neutron_mlnx_agent"),
  ("neutron_tls_proxy", "haproxy"),
  ("nova_compute_ironic", "nova"),
  ("ovn_sb_db_relay", "ovn"),
  ("redis_sentinel", "openstack"),
  ("swift_object_expirer", "swift"),
  ("tgtd", "iscsi")
]

def supportedBaseDistros : List String := ["rocky-10", "ubuntu-noble"]

def getContainers (image : String) : List String :=
  (imageToContainersExceptions.lookup image).getD [replaceChar '-' '_' image]

/-- `base_distro is None or base_distro in kolla_image_tags[tag]`. -/
def listsDistro (tags : KollaImageTags) (baseDistro : Option String) (tag : String) : Bool :=
  match baseDistro with
  | none => true
  | some distro => ((tags.get? tag).bind fun distros => distros.get? distro).isSome

def tagKey (tags : KollaImageTags) (baseDistro : Option String) (prefixVar tag : String) : Int :=
  if tag = "openstack" then 0
  else if tag ≠ prefixVar ∧ startswith prefixVar tag = true ∧
      listsDistro tags baseDistro tag = true then
    -(tag.length : Int)
  else 1

def firstByTagKey (tags : KollaImageTags) (baseDistro : Option String) (prefixVar : String) :
    Except PyError String :=
  match sortedBy (tagKey tags baseDistro prefixVar) tags.keys with
  | first :: _ => .ok first
  | [] => .error .indexError

def getParentTagName (tags : KollaImageTags) (baseDistro : Option String) (container : String) :
    Except PyError String :=
  match containerToPrefixVarExceptions.lookup container with
  | some prefixVar =>
      if (tags.get? prefixVar).isSome && listsDistro tags baseDistro prefixVar then .ok prefixVar
      else firstByTagKey tags baseDistro prefixVar
  | none => firstByTagKey tags baseDistro container

def lookupTag (tags : KollaImageTags) (baseDistro tag : String) : Option String :=
  (tags.get? tag).bind fun distros => distros.get? baseDistro

def getParentTag (tags : KollaImageTags) (baseDistro container : String) : Except PyError String := do
  let parentTagName ← getParentTagName tags (some baseDistro) container
  match lookupTag tags baseDistro parentTagName with
  | some tag => .ok tag
  | none => .error .keyError

def getTag (tags : KollaImageTags) (baseDistro container : String) : Except PyError String :=
  match lookupTag tags baseDistro container with
  | some tag => if tag ≠ "" then .ok tag else getParentTag tags baseDistro container
  | none => getParentTag tags baseDistro container

/-- First code points of the blocks of ten Unicode decimal digits, which `\d` matches. -/
def decimalZeros : List Nat := [
  0x30, 0x660, 0x6F0, 0x7C0, 0x966, 0x9E6, 0xA66, 0xAE6, 0xB66, 0xBE6, 0xC66, 0xCE6, 0xD66, 0xDE6,
  0xE50, 0xED0, 0xF20, 0x1040, 0x1090, 0x17E0, 0x1810, 0x1946, 0x19D0, 0x1A80, 0x1A90, 0x1B50,
  0x1BB0, 0x1C40, 0x1C50, 0xA620, 0xA8D0, 0xA900, 0xA9D0, 0xA9F0, 0xAA50, 0xABF0, 0xFF10, 0x104A0,
  0x10D30, 0x11066, 0x110F0, 0x11136, 0x111D0, 0x112F0, 0x11450, 0x114D0, 0x11650, 0x116C0,
  0x11730, 0x118E0, 0x11950, 0x11C50, 0x11D50, 0x11DA0, 0x11F50, 0x16A60, 0x16AC0, 0x16B50,
  0x1D7CE, 0x1D7D8, 0x1D7E2, 0x1D7EC, 0x1D7F6, 0x1E140, 0x1E2F0, 0x1E4F0, 0x1E950, 0x1FBF0
]

def isDigit : Atom := fun char =>
  decimalZeros.any fun first => first ≤ char.toNat && char.toNat < first + 10

def isTagVarChar : Atom := fun char => char.isLower || ('0' ≤ char && char ≤ '9') || char == '_'

def tagVarPattern : String := "^[a-z0-9_]+$"

def tagVarRe (text : String) : Bool := beforeEnd (matchPlus isTagVarChar) text

/-- The release is pasted into the pattern, where its dots match any character but a newline. -/
def releaseAtoms (release : String) : List Atom :=
  release.toList.map fun wanted char => if wanted = '.' then char != '\n' else char == wanted

def tagPattern (openstackRelease baseDistro : String) : String :=
  "^" ++ openstackRelease ++ "-" ++ baseDistro ++ "-[\\d]\x7b8\x7dT[\\d]\x7b6\x7d$"

def tagRe (openstackRelease baseDistro text : String) : Bool :=
  beforeEnd (matchAtoms (releaseAtoms openstackRelease ++ literal "-" ++ literal baseDistro ++
    literal "-" ++ List.replicate 8 isDigit ++ literal "T" ++ List.replicate 6 isDigit)) text

def validateTag (openstackRelease tagVar baseDistro tag : String) : List String :=
  if baseDistro ∉ supportedBaseDistros then
    [tagVar ++ ": base distro " ++ baseDistro ++
      " not supported. Options: ['rocky-10', 'ubuntu-noble']"]
  else if tagRe openstackRelease baseDistro tag = false then
    [tagVar ++ ": " ++ baseDistro ++ ": tag " ++ tag ++
      " does not match expected pattern. It should match " ++ tagPattern openstackRelease baseDistro]
  else []

def validateTagVar (openstackRelease tagVar : String) (baseDistros : Dict String String) :
    List String :=
  (if tagVarRe tagVar = false then
    ["Key " ++ tagVar ++ " does not match expected pattern. It should match " ++ tagVarPattern]
  else []) ++
    baseDistros.entries.flatMap fun entry => validateTag openstackRelease tagVar entry.1 entry.2

/-- The errors `validate` prints. It returns without exiting when there are none. -/
def validate (openstackRelease : String) (tags : KollaImageTags) : List String :=
  (if (tags.get? "openstack").isSome then [] else ["Missing default openstack tag"]) ++
    tags.entries.flatMap fun entry => validateTagVar openstackRelease entry.1 entry.2

/-- The names `check_hierarchy` has cut out of Kolla Ansible's `*_tag` variables: its
pattern takes one or more characters, and no role defines `openstack_tag`. -/
structure TagHierarchy where
  parents : Dict String String
  named : ∀ tagVar ∈ parents.keys, tagVar ≠ ""
  rootless : "openstack" ∉ parents.keys

def hierarchyTags (hierarchy : TagHierarchy) : KollaImageTags :=
  (⟨hierarchy.parents.entries.map fun entry => (entry.1, Dict.empty), by
    simpa [Function.comp_def] using hierarchy.parents.unique⟩ : KollaImageTags).set
    "openstack" Dict.empty

/-- The mismatches `check_hierarchy` reports: variable, our parent, Kolla Ansible's parent. -/
def checkHierarchy (hierarchy : TagHierarchy) : Except PyError (List (String × String × String)) := do
  let found ← hierarchy.parents.entries.mapM fun entry => do
    let parent ← getParentTagName (hierarchyTags hierarchy) none entry.1
    return (entry.1, parent, entry.2)
  return found.filter fun error => error.2.1 ≠ error.2.2

def checkImageMap (supportedImages : List String) (imageMap : Dict String String) :
    Except PyError (List (String × String)) :=
  let supported := imageMap.entries.filter fun entry => entry.2 ∈ supportedImages
  if supportedImages = [] ∨ supported = [] then .error .assertionError
  else .ok (supported.filter fun entry => entry.1 ∉ getContainers entry.2)

structure TagVarLine where
  tagVar : String
  parent : Option String
  deriving DecidableEq, Repr

def TagVarLine.render (line : TagVarLine) : String :=
  let default := match line.parent with
    | some parent => " | default(" ++ parent ++ "_tag)"
    | none => ""
  line.tagVar ++ "_tag: \"\x7b\x7b kolla_image_tags['" ++ line.tagVar ++
    "'][kolla_base_distro_and_version]" ++ default ++ " \x7d\x7d\""

def tagVarLine (tags : KollaImageTags) (tagVar : String) : Except PyError TagVarLine :=
  if tagVar = "openstack" then .ok ⟨tagVar, none⟩
  else do
    let parent ← getParentTagName tags none tagVar
    return ⟨tagVar, some parent⟩

def listTagVars (tags : KollaImageTags) : Except PyError (List TagVarLine) :=
  tags.keys.mapM (tagVarLine tags)

def getTagsContainer (tags : KollaImageTags) (baseDistro image : String)
    (imageTags : Dict String (List String)) (container : String) :
    Except PyError (Dict String (List String)) := do
  let tag ← getTag tags baseDistro container
  let imageTags := imageTags.setdefault image []
  let found := (imageTags.get? image).getD []
  return imageTags.set image (appendNew found tag)

def getTagsImage (tags : KollaImageTags) (unbuildableImages : Dict String (List String))
    (baseDistro : String) (imageTags : Dict String (List String)) (image : String) :
    Except PyError (Dict String (List String)) :=
  match unbuildableImages.get? baseDistro with
  | none => .error .keyError
  | some unbuildable =>
      if image ∈ unbuildable then .ok imageTags
      else (getContainers image).foldlM (getTagsContainer tags baseDistro image) imageTags

def getTags (images : List String) (unbuildableImages : Dict String (List String))
    (baseDistros : List String) (tags : KollaImageTags) :
    Except PyError (Dict String (List String)) :=
  baseDistros.foldlM (fun imageTags baseDistro =>
    images.foldlM (getTagsImage tags unbuildableImages baseDistro) imageTags) Dict.empty

end KollaImages
