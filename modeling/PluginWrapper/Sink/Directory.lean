import PluginWrapper.FileTree

/-!
A sink that writes artifacts as files below an output root. The package of a class becomes
directories, and its last name a Java file.
-/

namespace PluginWrapper.Directory

def sourcePath (root : List Char) (name : String) : List Char :=
  Path.withExtension (Path.pushAll root (Text.split '.' name.toList)) "java".toList

def resourcePath (root : List Char) (package name : String) : List Char :=
  Path.push (Path.pushAll root ((Text.split '.' package.toList).filter (· != []))) name.toList

/-- Opening an artifact makes the directories above it and empties its file. -/
def sink (root : List Char) : Sink FileTree Location where
  openSource name t := t.createFileWithParents (sourcePath root name)
  openResource package name t := t.createFileWithParents (resourcePath root package name)
  write here bytes t := (.ok bytes.length, here, t.append here bytes)
  flush here t := (.ok (), here, t)

end PluginWrapper.Directory
