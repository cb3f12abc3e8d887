import ClusterGate.Redaction.Resource

/-!
# The bundled allow-lists

The allow-lists of the cluster APIs that are used unless the environment
names a file. Most responses pass as they are; of the settings and the
statistics only some fields do.
-/

namespace ClusterGate

/-- The bundled dotted paths. -/
def bundledResource : Resource :=
  .ofList
    [("/_cat/pending_tasks", ∅),
     ("/_cat/recovery", ∅),
     ("/_cat/repositories", ∅),
     ("/_cat/snapshots", ∅),
     ("/_cat/tasks", ∅),
     ("/_cluster/health", ∅),
     ("/_cluster/settings",
       .ofList [("defaults", []), ("persistent", []), ("transient", [])]),
     ("/_cluster/stats",
       .ofList
         [("cluster_name", []),
          ("cluster_uuid", []),
          ("status", []),
          ("indices",
            ["count", "docs", "shards.total", "shards.primaries",
             "shards.index.shards.min", "shards.index.shards.max"]),
          ("nodes", ["count", "versions", "jvm.mem", "fs"])]),
     ("/_nodes/stats", ∅)]

namespace AllowLists

/-- The bundled allow-lists. -/
def bundled : Except AllowListsError AllowLists := ofResource bundledResource

/-- The variable of the environment that names a file to use instead. -/
def environmentVariable : String := "LOCALURI_ALLOW_LIST"

/-- The allow-lists of an environment: those in the file that it names, and
the bundled ones if it names none. -/
def ofEnvironment (named : Option (String × FileContent)) :
    Except AllowListsError AllowLists :=
  match named with
  | some (path, content) =>
    if path.isEmpty then bundled else ofFile path content
  | none => bundled

end AllowLists

end ClusterGate
