import HostReadiness.Proofs.CommandLine.FrontEnd
import HostReadiness.Proofs.Template.Expand

/-! Where the files lie that are opened for the devices. A name must not hold a slash, which keeps it to
one component of a path; the components that stand for directories are not ruled out. -/

namespace HostReadiness

namespace Path

def components (path : String) : List String :=
  (path.toList.splitOn '/').map String.ofList

def descend (directory : List String) (component : String) : List String :=
  if component = "" ∨ component = "." then directory
  else if component = ".." then directory.tail
  else component :: directory

/-- The names on the way from the root to where a path leads, told from its letters alone. -/
def resolve (path : String) : List String :=
  ((components path).foldl descend []).reverse

def IsName (component : String) : Prop :=
  component ≠ "" ∧ component ≠ "." ∧ component ≠ ".."

theorem isName_of_mem_descend {directory : List String} (names : ∀ name ∈ directory, IsName name)
    (component : String) : ∀ name ∈ descend directory component, IsName name := by
  intro name member
  unfold descend at member
  split at member
  · exact names name member
  · rename_i stays
    split at member
    · exact names name (List.mem_of_mem_tail member)
    · rename_i enters
      rcases List.mem_cons.mp member with rfl | before
      · exact ⟨fun empty => stays (.inl empty), fun dot => stays (.inr dot), enters⟩
      · exact names name before

theorem isName_of_mem_resolve {path name : String} (member : name ∈ resolve path) : IsName name := by
  have names (components directory : List String) (before : ∀ name ∈ directory, IsName name) :
      ∀ name ∈ components.foldl descend directory, IsName name := by
    induction components generalizing directory with
    | nil => exact before
    | cons component rest ih => exact ih _ (isName_of_mem_descend before component)
  exact names _ [] (fun _ none => absurd none List.not_mem_nil) name (List.mem_reverse.mp member)

theorem descend_of_isName {component : String} (name : IsName component) (directory : List String) :
    descend directory component = component :: directory := by
  unfold descend
  rw [if_neg (by simp [name.1, name.2.1]), if_neg name.2.2]

theorem components_intercalate {parts : List String} (parted : parts ≠ [])
    (plain : ∀ part ∈ parts, '/' ∉ part.toList) : components ("/".intercalate parts) = parts := by
  rw [components, String.toList_intercalate]
  have separator : "/".toList = ['/'] := rfl
  rw [separator, List.splitOn_intercalate '/' (by simpa using plain) (by simpa using parted)]
  simp

theorem components_of_device {device : String} (plain : '/' ∉ device.toList) :
    components ("/sys/class/net/" ++ device ++ "/speed") =
      ["", "sys", "class", "net", device, "speed"] := by
  have joined : "/sys/class/net/" ++ device ++ "/speed" =
      "/".intercalate ["", "sys", "class", "net", device, "speed"] := by
    simp [← String.toList_inj]
  rw [joined, components_intercalate (by simp) (by simpa using plain)]

theorem resolve_of_device {device : String} (plain : '/' ∉ device.toList) :
    resolve ("/sys/class/net/" ++ device ++ "/speed") =
      (descend (descend ["net", "class", "sys"] device) "speed").reverse := by
  rw [resolve, components_of_device plain]
  rfl

theorem resolve_of_device_iff {device : String} (filled : device ≠ "")
    (plain : '/' ∉ device.toList) :
    resolve ("/sys/class/net/" ++ device ++ "/speed") = ["sys", "class", "net", device, "speed"] ↔
      device ≠ "." ∧ device ≠ ".." := by
  constructor
  · intro resolved
    have member : device ∈ resolve ("/sys/class/net/" ++ device ++ "/speed") := by
      rw [resolved]
      simp
    exact (isName_of_mem_resolve member).2
  · intro name
    rw [resolve_of_device plain, descend_of_isName ⟨filled, name⟩]
    rfl

end Path

theorem speedFile_of_default {setup : Setup} (standard : setup.locations = .default)
    (device : String) :
    speedFile setup device = [.file ("/sys/class/net/" ++ device ++ "/speed")] := by
  rw [speedFile, standard, LinkSpeed.path_default]

namespace CommandLine

inductive OpenedFor (host : Host) (arguments : List String) (device path : String) : Prop where
  | opened (invocation : Invocation)
      (asked : Request.ofArguments arguments = .ok (.checks invocation))
      (given : device ∈ invocation.nics)
      (access : .file path ∈ ((LinkSpeed.check invocation.setup device).probe.run
        (invocation.site host)).journal.trace)

section
variable {host : Host} {arguments : List String} {device path : String}

theorem Invocation.file_mem_trace_link_iff {invocation : Invocation} :
    .file path ∈ ((LinkSpeed.check invocation.setup device).probe.run
        (invocation.site host)).journal.trace ↔
      path = "/sys/class/net/" ++ device ++ "/speed" := by
  have named : invocation.setup.locations.memoryRanges ≠ [] := List.cons_ne_nil _ _
  have traced := trace_check (invocation.site host) named (.link device)
  rw [access_footprint_link, speedFile_of_default rfl] at traced
  change .file path ∈ (((Subject.link device).check invocation.setup).probe.run
    (invocation.site host)).journal.trace ↔ _
  rw [traced, List.mem_singleton, Access.file.injEq]

theorem openedFor_iff : OpenedFor host arguments device path ↔
    ∃ invocation, Request.ofArguments arguments = .ok (.checks invocation) ∧
      device ∈ invocation.nics ∧ path = "/sys/class/net/" ++ device ++ "/speed" := by
  constructor
  · rintro ⟨invocation, asked, given, access⟩
    exact ⟨invocation, asked, given, Invocation.file_mem_trace_link_iff.mp access⟩
  · rintro ⟨invocation, asked, given, path⟩
    exact ⟨invocation, asked, given, Invocation.file_mem_trace_link_iff.mpr path⟩

theorem Invocation.file_mem_trace_iff {invocation : Invocation} {surroundings : Surroundings} :
    .file path ∈ (invocation.run surroundings).trace ↔
      Memory.GivesNothing invocation.setup (invocation.site surroundings.host) ∧
          path = "/proc/meminfo" ∨
        ∃ device ∈ invocation.nics, path = "/sys/class/net/" ++ device ++ "/speed" := by
  have speed (device : String) : speedFile invocation.setup device =
      [.file ("/sys/class/net/" ++ device ++ "/speed")] := speedFile_of_default rfl device
  rw [(invocation.trace_run_perm surroundings).mem_iff, file_mem_standardTrace_iff]
  simp only [speed, List.mem_singleton, Access.file.injEq]
  rfl

end

structure DeviceFiles (surroundings : Surroundings) (arguments : List String) : Prop where
  opened : ∀ invocation, Request.ofArguments arguments = .ok (.checks invocation) →
    ∀ device ∈ invocation.nics,
      OpenedFor surroundings.host arguments device ("/sys/class/net/" ++ device ++ "/speed")
  carriedOut : ∀ device path, OpenedFor surroundings.host arguments device path →
    .file path ∈ (run surroundings arguments).trace
  noOther : ∀ path, .file path ∈ (run surroundings arguments).trace →
    path = "/proc/meminfo" ∨ ∃ device, OpenedFor surroundings.host arguments device path
  inside : ∀ device path, OpenedFor surroundings.host arguments device path →
    (Path.resolve path = ["sys", "class", "net", device, "speed"] ↔ device ≠ "." ∧ device ≠ "..")
  here : ∀ path, OpenedFor surroundings.host arguments "." path →
    Path.resolve path = ["sys", "class", "net", "speed"]
  above : ∀ path, OpenedFor surroundings.host arguments ".." path →
    Path.resolve path = ["sys", "class", "speed"]

/-- For every host and all arguments, what is opened for a device lies at its own name in the directory
of devices, unless the name is that of a directory. -/
theorem run_deviceFiles (surroundings : Surroundings) (arguments : List String) :
    DeviceFiles surroundings arguments where
  opened := fun invocation asked device given =>
    openedFor_iff.mpr ⟨invocation, asked, given, rfl⟩
  carriedOut := by
    intro device path opened
    obtain ⟨invocation, asked, given, path⟩ := openedFor_iff.mp opened
    rw [run_of_checks asked]
    exact Invocation.file_mem_trace_iff.mpr (.inr ⟨device, given, path⟩)
  noOther := by
    intro path access
    obtain ⟨invocation, asked, among⟩ := exists_checks_of_mem_trace access
    rcases Invocation.file_mem_trace_iff.mp among with ⟨-, report⟩ | ⟨device, given, path⟩
    · exact .inl report
    · exact .inr ⟨device, openedFor_iff.mpr ⟨invocation, asked, given, path⟩⟩
  inside := by
    intro device path opened
    obtain ⟨invocation, asked, given, rfl⟩ := openedFor_iff.mp opened
    obtain ⟨parsed, timeout, -, asks, rfl⟩ := exists_asks_of_checks asked
    obtain ⟨filled, plain⟩ := asks.device given
    exact Path.resolve_of_device_iff filled plain
  here := by
    intro path opened
    obtain ⟨-, -, -, rfl⟩ := openedFor_iff.mp opened
    rw [Path.resolve_of_device (by decide)]
    rfl
  above := by
    intro path opened
    obtain ⟨-, -, -, rfl⟩ := openedFor_iff.mp opened
    rw [Path.resolve_of_device (by decide)]
    rfl

/-- The name of the directory above is taken for that of a device. -/
theorem resolve_above_devices :
    OpenedFor nowhere.host ["--nic", ".."] ".." "/sys/class/net/../speed" ∧
      Path.resolve "/sys/class/net/../speed" ≠ ["sys", "class", "net", "..", "speed"] := by
  have asked : Request.ofArguments ["--nic", ".."] =
      .ok (.checks (Parsed.invocation ⟨[.given .nic ".."], []⟩ none)) := rfl
  have given : ".." ∈ (Parsed.invocation ⟨[.given .nic ".."], []⟩ none).nics := by decide
  exact ⟨openedFor_iff.mpr ⟨_, asked, given, rfl⟩, by decide⟩

end CommandLine

end HostReadiness
