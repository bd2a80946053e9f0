namespace Observe.Command.Help

def lines (texts : List String) : String := "\n".intercalate texts ++ "\n"

def version : String := lines ["observe-expr 0.1.0"]

def beginning : List String :=
  ["Parse and inspect observe expressions",
    "",
    "Usage: observe-expr [OPTIONS] [EXPRESSIONS]...",
    "",
    "Arguments:"]

def short : String :=
  lines (beginning ++
    ["  [EXPRESSIONS]...  Expressions to parse (omit to read one per line from stdin)",
      "",
      "Options:",
      "  -f, --format <FORMAT>  Output format (default: from config, else text) " ++
        "[possible values: text, tree, json, paths]",
      "  -c, --config <FILE>    Path to a config file " ++
        "(default: ~/.config/observe-expr/config.toml)",
      "      --fail-fast        Stop at the first invalid expression",
      "  -v, --verbose...       Verbosity level (can be repeated: -v, -vv)",
      "  -q, --quiet            Suppress all log output except errors",
      "  -h, --help             Print help (see more with '--help')",
      "  -V, --version          Print version"])

def long : String :=
  lines (beginning ++
    ["  [EXPRESSIONS]...",
      "          Expressions to parse (omit to read one per line from stdin)",
      "",
      "Options:",
      "  -f, --format <FORMAT>",
      "          Output format (default: from config, else text)",
      "",
      "          Possible values:",
      "          - text:  Canonical expression text",
      "          - tree:  Indented tree of nodes",
      "          - json:  Pretty-printed JSON of the AST",
      "          - paths: One line per path with groups expanded",
      "",
      "  -c, --config <FILE>",
      "          Path to a config file (default: ~/.config/observe-expr/config.toml)",
      "",
      "      --fail-fast",
      "          Stop at the first invalid expression",
      "",
      "  -v, --verbose...",
      "          Verbosity level (can be repeated: -v, -vv)",
      "",
      "  -q, --quiet",
      "          Suppress all log output except errors",
      "",
      "  -h, --help",
      "          Print help (see a summary with '-h')",
      "",
      "  -V, --version",
      "          Print version"])

end Observe.Command.Help
