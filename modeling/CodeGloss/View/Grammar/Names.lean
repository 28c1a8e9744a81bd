/-!
# The names of grammars

Every grammar with the extensions and the whole file names that it is for.  Where a name belongs to
several grammars the one that stands first has it, so the list is in the order of preference: a
header file is Objective-C, and only then C or C++.
-/

namespace CodeGloss
namespace Grammar

/-- The grammar of texts of no kind. -/
def plainText : String := "Plain Text"

/-- The grammar of shell scripts. -/
def shell : String := "Bourne Again Shell (bash)"

/-- The grammars, each with the extensions and file names that it is for, in lower case. -/
def extensions : List (String × List String) :=
  [("YAML", ["yaml", "yml", "sublime-syntax"]),
    ("XML", ["xml", "xsd", "xslt", "tld", "dtml", "rss", "opml", "svg"]),
    ("Textile", ["textile"]),
    ("Tcl", ["tcl"]),
    ("HTML (Tcl)", ["adp"]),
    (shell, ["sh", "bash", "zsh", "fish", ".bash_aliases", ".bash_completions", ".bash_functions",
      ".bash_login", ".bash_logout", ".bash_profile", ".bash_variables", ".bashrc", ".profile",
      ".textmate_init"]),
    ("Scala", ["scala", "sbt"]),
    ("SQL", ["sql", "ddl", "dml"]),
    ("Rust", ["rs"]),
    ("Ruby", ["rb", "appfile", "appraisals", "berksfile", "brewfile", "capfile", "cgi", "cheffile",
      "config.ru", "deliverfile", "fastfile", "fcgi", "gemfile", "gemspec", "guardfile", "irbrc",
      "jbuilder", "podspec", "prawn", "rabl", "rake", "rakefile", "rantfile", "rbx", "rjs",
      "ruby.rail", "scanfile", "simplecov", "snapfile", "thor", "thorfile", "vagrantfile"]),
    ("reStructuredText", ["rst", "rest"]),
    ("Regular Expression", ["re"]),
    ("SQL (Rails)", ["erbsql", "sql.erb"]),
    ("Ruby on Rails", ["rxml", "builder"]),
    ("Ruby Haml", ["haml", "sass"]),
    ("JavaScript (Rails)", ["js.erb"]),
    ("HTML (Rails)", ["rails", "rhtml", "erb", "html.erb"]),
    ("Rd (R Documentation)", ["rd"]),
    ("R", ["r", "s", "rprofile"]),
    ("Python", ["py", "py3", "pyw", "pyi", "pyx", "pyx.in", "pxd", "pxd.in", "pxi", "pxi.in", "rpy",
      "cpy", "sconstruct", "sconscript", "gyp", "gypi", "snakefile", "wscript"]),
    ("Perl", ["pl", "pm", "pod", "t"]),
    ("Pascal", ["pas", "p", "dpr"]),
    ("PHP", ["php", "php3", "php4", "php5", "php7", "phps", "phpt", "phtml"]),
    ("Objective-C", ["m", "h"]),
    ("Objective-C++", ["mm"]),
    ("OCamlyacc", ["mly"]),
    ("OCamllex", ["mll"]),
    ("OCaml", ["ml", "mli"]),
    ("MATLAB", ["matlab"]),
    ("Markdown", ["md", "mdown", "markdown", "markdn"]),
    ("Makefile", ["make", "gnumakefile", "makefile", "ocamlmakefile", "mak", "mk"]),
    ("Lua", ["lua"]),
    ("Lisp", ["lisp", "cl", "clisp", "l", "mud", "el", "scm", "ss", "lsp", "fasl"]),
    ("TeX", ["sty", "cls"]),
    ("LaTeX", ["tex", "ltx"]),
    ("BibTeX", ["bib"]),
    ("JavaScript", ["js", "htc"]),
    ("JSON", ["json", "sublime-settings", "sublime-menu", "sublime-keymap", "sublime-mousemap",
      "sublime-theme", "sublime-build", "sublime-project", "sublime-completions",
      "sublime-commands", "sublime-macro", "sublime-color-scheme"]),
    ("Java Properties", ["properties"]),
    ("Java", ["java", "bsh"]),
    ("Java Server Page (JSP)", ["jsp"]),
    ("Literate Haskell", ["lhs"]),
    ("Haskell", ["hs"]),
    ("HTML", ["html", "htm", "shtml", "xhtml", "inc", "tmpl", "tpl"]),
    ("Groovy", ["groovy", "gvy", "gradle", "jenkinsfile"]),
    ("Graphviz (DOT)", ["dot", "gv"]),
    ("Go", ["go"]),
    ("HTML (Erlang)", ["yaws"]),
    ("Erlang", ["erl", "hrl", "emakefile"]),
    ("Diff", ["diff", "patch"]),
    ("D", ["d", "di"]),
    ("Clojure", ["clj"]),
    ("CSS", ["css", "css.erb", "css.liquid"]),
    ("C", ["c"]),
    ("C++", ["cpp", "cc", "cp", "cxx", "c++", "hh", "hpp", "hxx", "h++", "inl", "ipp"]),
    ("C#", ["cs", "csx"]),
    ("NAnt Build File", ["build"]),
    ("Batch File", ["bat", "cmd"]),
    ("AppleScript", ["applescript", "script editor"]),
    ("ActionScript", ["as"]),
    ("HTML (ASP)", ["asp"]),
    ("ASP", ["asa"]),
    (plainText, ["txt"])]

/-- The grammar for an extension or a file name. -/
def ofExtension? (extension : String) : Option String :=
  let extension := String.ofList (extension.toList.map Char.toLower)
  (extensions.find? fun g => g.2.contains extension).map (·.1)

end Grammar
end CodeGloss
