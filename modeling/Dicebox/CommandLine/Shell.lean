/-!
# Shells

A `Shell` can complete a command line while it is being typed. For that it runs a script that asks
the program how the line could go on, and the program prints that script itself (`Shell.script`). In
the scripts the program has the name of its group of commands, `root`, which is the one it goes by
unless it is started by the name of its file.
-/

set_option autoImplicit false

namespace Dicebox.CommandLine

/-- A shell that can ask how a line could go on. -/
inductive Shell
  | bash
  | zsh
  | fish
  | powershell
  deriving Repr, DecidableEq

namespace Shell

/-- The name of a shell. -/
def name : Shell → String
  | .bash => "bash"
  | .zsh => "zsh"
  | .fish => "fish"
  | .powershell => "powershell"

/-- The shell of a name. -/
def ofName? (name : String) : Option Shell :=
  [bash, zsh, fish, powershell].find? (·.name == name)

theorem ofName?_name (shell : Shell) : ofName? shell.name = some shell := by
  cases shell <;> decide

/-! ## Scripts -/

/-- The script for Bash. -/
def bashScript : List String :=
  ["_root_completion() \x7b",
    "    local IFS=$'\\n'",
    "    local response",
    "",
    "    response=$(env COMP_WORDS=\"$\x7bCOMP_WORDS[*]\x7d\" " ++
      "COMP_CWORD=$COMP_CWORD _ROOT_COMPLETE=bash_complete $1)",
    "",
    "    for completion in $response; do",
    "        IFS=',' read type value <<< \"$completion\"",
    "",
    "        if [[ $type == 'dir' ]]; then",
    "            COMPREPLY=()",
    "            compopt -o dirnames",
    "        elif [[ $type == 'file' ]]; then",
    "            COMPREPLY=()",
    "            compopt -o default",
    "        elif [[ $type == 'plain' ]]; then",
    "            COMPREPLY+=($value)",
    "        fi",
    "    done",
    "",
    "    return 0",
    "\x7d",
    "",
    "_root_completion_setup() \x7b",
    "    complete -o nosort -F _root_completion root",
    "\x7d",
    "",
    "_root_completion_setup;"]

/-- The script for Zsh. -/
def zshScript : List String :=
  ["#compdef root",
    "",
    "_root_completion() \x7b",
    "    local -a completions",
    "    local -a completions_with_descriptions",
    "    local -a response",
    "    (( ! $+commands[root] )) && return 1",
    "",
    "    response=(\"$\x7b(@f)$(env COMP_WORDS=\"$\x7bwords[*]\x7d\" " ++
      "COMP_CWORD=$((CURRENT-1)) _ROOT_COMPLETE=zsh_complete root)\x7d\")",
    "",
    "    for type key descr in $\x7bresponse\x7d; do",
    "        if [[ \"$type\" == \"plain\" ]]; then",
    "            if [[ \"$descr\" == \"_\" ]]; then",
    "                completions+=(\"$key\")",
    "            else",
    "                completions_with_descriptions+=(\"$key\":\"$descr\")",
    "            fi",
    "        elif [[ \"$type\" == \"dir\" ]]; then",
    "            _path_files -/",
    "        elif [[ \"$type\" == \"file\" ]]; then",
    "            _path_files -f",
    "        fi",
    "    done",
    "",
    "    if [ -n \"$completions_with_descriptions\" ]; then",
    "        _describe -V unsorted completions_with_descriptions -U",
    "    fi",
    "",
    "    if [ -n \"$completions\" ]; then",
    "        compadd -U -V unsorted -a completions",
    "    fi",
    "\x7d",
    "",
    "if [[ $zsh_eval_context[-1] == loadautofunc ]]; then",
    "    # autoload from fpath, call function directly",
    "    _root_completion \"$@\"",
    "else",
    "    # eval/source/. command, register function for later",
    "    compdef _root_completion root",
    "fi"]

/-- The script for Fish. -/
def fishScript : List String :=
  ["function _root_completion;",
    "    set -l response (env _ROOT_COMPLETE=fish_complete " ++
      "COMP_WORDS=(commandline -cp) COMP_CWORD=(commandline -t) root);",
    "",
    "    for completion in $response;",
    "        set -l metadata (string split \",\" $completion);",
    "",
    "        if test $metadata[1] = \"dir\";",
    "            __fish_complete_directories $metadata[2];",
    "        else if test $metadata[1] = \"file\";",
    "            __fish_complete_path $metadata[2];",
    "        else if test $metadata[1] = \"plain\";",
    "            echo $metadata[2];",
    "        end;",
    "    end;",
    "end;",
    "",
    "complete --no-files --command root --arguments \"(_root_completion)\";"]

/-- The script for PowerShell. -/
def powershellScript : List String :=
  ["Register-ArgumentCompleter -Native -CommandName root -ScriptBlock \x7b",
    "    param($wordToComplete, $commandAst, $cursorPosition)",
    "",
    "    $prev_complete = $env:_ROOT_COMPLETE",
    "    $prev_words = $env:COMP_WORDS",
    "    $prev_cword = $env:COMP_CWORD",
    "",
    "    $env:_ROOT_COMPLETE = 'powershell_complete'",
    "    $env:COMP_WORDS = $commandAst.ToString()",
    "    if ($wordToComplete) \x7b",
    "        $env:COMP_CWORD = $commandAst.CommandElements.Count - 1",
    "    \x7d else \x7b",
    "        $env:COMP_CWORD = $commandAst.CommandElements.Count",
    "    \x7d",
    "",
    "    try \x7b",
    "        $response = & root 2>$null",
    "    \x7d finally \x7b",
    "        $env:_ROOT_COMPLETE = $prev_complete",
    "        $env:COMP_WORDS = $prev_words",
    "        $env:COMP_CWORD = $prev_cword",
    "    \x7d",
    "",
    "    if (-not $response) \x7b return \x7d",
    "",
    "    $prefix = \"$wordToComplete*\"",
    "    $lines = $response -split \"\x60n\"",
    "    for ($i = 0; $i + 2 -lt $lines.Count; $i += 3) \x7b",
    "        $type = $lines[$i]",
    "        $value = $lines[$i + 1]",
    "        $descr = $lines[$i + 2]",
    "        if (-not $type) \x7b continue \x7d",
    "",
    "        if ($type -eq 'plain') \x7b",
    "            $tip = if ($descr -and $descr -ne '_') \x7b $descr \x7d else \x7b $value \x7d",
    "            [System.Management.Automation.CompletionResult]::new(",
    "                $value, $value, 'ParameterValue', $tip)",
    "        \x7d elseif ($type -eq 'dir') \x7b",
    "            Get-ChildItem -Directory -Path $prefix -ErrorAction SilentlyContinue |",
    "                ForEach-Object \x7b",
    "                    [System.Management.Automation.CompletionResult]::new(",
    "                        $_.FullName, $_.Name, 'ProviderContainer', $_.FullName)",
    "                \x7d",
    "        \x7d elseif ($type -eq 'file') \x7b",
    "            Get-ChildItem -Path $prefix -ErrorAction SilentlyContinue |",
    "                ForEach-Object \x7b",
    "                    $kind = 'ProviderItem'",
    "                    if ($_.PSIsContainer) \x7b $kind = 'ProviderContainer' \x7d",
    "                    [System.Management.Automation.CompletionResult]::new(",
    "                        $_.FullName, $_.Name, $kind, $_.FullName)",
    "                \x7d",
    "        \x7d",
    "    \x7d",
    "\x7d"]

/-- The lines of the script that a shell runs. -/
def scriptLines : Shell → List String
  | .bash => bashScript
  | .zsh => zshScript
  | .fish => fishScript
  | .powershell => powershellScript

/-- The script that a shell runs. -/
def script (shell : Shell) : String := String.join (shell.scriptLines.map (· ++ "\n"))

end Shell

end Dicebox.CommandLine
