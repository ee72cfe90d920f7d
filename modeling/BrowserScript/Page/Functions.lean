/-!
# Page functions

The expressions evaluated in a page, and the two functions called there. Each function takes one
object of arguments whose member `op` says what is wanted.
-/

namespace BrowserScript.Page

/-- The attribute that marks an element that has been found, so that it can be addressed again. -/
def handleAttribute : String := "data-pilot-ref"

def readyStateExpression : String := "document.readyState"

def locationExpression : String := "location.href"

def bodyTextExpression : String := "document.body ? document.body.innerText : ''"

/-- Finds an element by a strategy and a value, marks it, and tells where it lies. -/
def resolveFunction : String :=
  "
(args) => \x7b
    const lc = s => (s || '').toLowerCase().trim();
    const none = \x7b found: false, selector: '', tag: '', text: '', visible: false, bbox: \x7bx:0,y:0,width:0,height:0\x7d \x7d;

    function path(el) \x7b
        if (el.id) return '#' + CSS.escape(el.id);
        const parts = [];
        let n = el;
        while (n && n.nodeType === 1) \x7b
            let s = n.tagName.toLowerCase();
            if (n.id) \x7b parts.unshift('#' + CSS.escape(n.id)); break; \x7d
            const p = n.parentElement;
            if (p) \x7b
                const sibs = [...p.children].filter(c => c.tagName === n.tagName);
                if (sibs.length > 1) s += ':nth-of-type(' + (sibs.indexOf(n) + 1) + ')';
            \x7d
            parts.unshift(s);
            n = p;
        \x7d
        return parts.join(' > ');
    \x7d

    function handle(el) \x7b
        let id = el.getAttribute('data-pilot-ref');
        if (!id) \x7b
            window.__pilotRef = (window.__pilotRef || 0) + 1;
            id = String(window.__pilotRef);
            el.setAttribute('data-pilot-ref', id);
        \x7d
        return id;
    \x7d

    function text(el) \x7b
        return el.innerText?.trim() || el.value || el.getAttribute('aria-label') || el.title || el.placeholder || '';
    \x7d

    function visible(el) \x7b
        const r = el.getBoundingClientRect();
        const s = getComputedStyle(el);
        return r.width > 0 && r.height > 0 && s.display !== 'none'
            && s.visibility !== 'hidden' && parseFloat(s.opacity) !== 0;
    \x7d

    // Document order, shadow content right after its host.
    function allElements(root) \x7b
        const out = [];
        const walk = node => \x7b
            for (const el of node.querySelectorAll('*')) \x7b
                out.push(el);
                if (el.shadowRoot) walk(el.shadowRoot);
            \x7d
        \x7d;
        walk(root);
        return out;
    \x7d

    const UNRENDERED = 'script,style,head,template,noscript,title';

    function rendered(el) \x7b
        return !el.closest(UNRENDERED) && visible(el);
    \x7d

    // First match in document order with no matching descendant.
    function innermost(matches) \x7b
        return matches.find(el => !matches.some(o => o !== el && el.contains(o))) || null;
    \x7d

    const IMPLICIT_ROLES = \x7b
        a: 'link', button: 'button', select: 'combobox', textarea: 'textbox',
        input: 'textbox', img: 'img', h1: 'heading', h2: 'heading', h3: 'heading',
    \x7d;

    function roleOf(el) \x7b
        return el.getAttribute('role') || IMPLICIT_ROLES[el.tagName.toLowerCase()] || '';
    \x7d

    function explicitName(el) \x7b
        const by = el.getAttribute('aria-labelledby');
        if (by) \x7b
            const names = by.split(/\\s+/).map(id => document.getElementById(id)?.innerText || '').join(' ');
            if (names.trim()) return names.trim();
        \x7d
        return el.getAttribute('aria-label') || el.getAttribute('alt') || el.getAttribute('title')
            || (el.labels && el.labels[0]?.innerText) || el.getAttribute('placeholder') || '';
    \x7d

    function find(strategy, value) \x7b
        switch (strategy) \x7b
            case 'css':
                return document.querySelector(value);
            case 'pierce': \x7b
                const hit = document.querySelector(value);
                if (hit) return hit;
                for (const el of allElements(document)) \x7b
                    if (el.shadowRoot) \x7b
                        const inner = el.shadowRoot.querySelector(value);
                        if (inner) return inner;
                    \x7d
                \x7d
                return null;
            \x7d
            case 'xpath':
                return document.evaluate(value, document, null, XPathResult.FIRST_ORDERED_NODE_TYPE, null).singleNodeValue;
            case 'aria': \x7b
                const m = value.match(/^(.*?)(?:\\[role=\"([^\"]+)\"\\])?$/);
                const name = lc(m[1]);
                const role = m[2];
                const pool = allElements(document).filter(el =>
                    !el.closest(UNRENDERED) && (!role || roleOf(el) === role || el.tagName.toLowerCase() === role));
                const named = pool.find(el => lc(explicitName(el)) === name);
                if (named) return named;
                const byText = pool.filter(el => lc(el.innerText) === name);
                return byText.find(el => roleOf(el)) || innermost(byText);
            \x7d
            case 'text': \x7b
                const want = lc(value);
                return innermost(allElements(document).filter(el => rendered(el) && lc(el.innerText).includes(want)));
            \x7d
        \x7d
        return null;
    \x7d

    function clickable(el, opts) \x7b
        const tag = el.tagName.toLowerCase();
        if (opts.tags.includes(tag)) return true;
        const role = el.getAttribute('role');
        if (role && opts.roles.includes(role)) return true;
        if (el.hasAttribute('onclick') || typeof el.onclick === 'function') return true;
        if (getComputedStyle(el).cursor === 'pointer') return true;
        const marks = lc((el.className && el.className.baseVal !== undefined ? el.className.baseVal : el.className) + ' '
            + [...el.attributes].filter(a => a.name.startsWith('data-')).map(a => a.name + ' ' + a.value).join(' '));
        return opts.keywords.some(k => marks.includes(lc(k)));
    \x7d

    let el;
    try \x7b
        el = find(args.strategy, args.value);
    \x7d catch (e) \x7b
        return none;
    \x7d
    if (!el) return none;

    if (args.clickable) \x7b
        let n = el;
        for (let depth = 0; n && n.nodeType === 1 && depth <= args.clickable.maxDepth; depth++) \x7b
            if (clickable(n, args.clickable)) \x7b el = n; break; \x7d
            n = n.parentElement;
        \x7d
    \x7d

    const r = el.getBoundingClientRect();
    return \x7b
        found: true,
        selector: path(el),
        handle: handle(el),
        tag: el.tagName.toLowerCase(),
        text: text(el).slice(0, 80),
        visible: visible(el),
        bbox: \x7bx: r.x, y: r.y, width: r.width, height: r.height\x7d,
    \x7d;
\x7d
"

/-- Focuses, commits or scrolls a marked element; answers whether it could. -/
def actionFunction : String :=
  "
(args) => \x7b
    // Elements are addressed by the handle the resolver tagged them with,
    // searched through open shadow roots.
    function byHandle(h) \x7b
        const sel = '[data-pilot-ref=\"' + h + '\"]';
        const walk = root => \x7b
            const hit = root.querySelector(sel);
            if (hit) return hit;
            for (const n of root.querySelectorAll('*')) \x7b
                if (n.shadowRoot) \x7b
                    const inner = walk(n.shadowRoot);
                    if (inner) return inner;
                \x7d
            \x7d
            return null;
        \x7d;
        return walk(document);
    \x7d

    const el = args.handle ? byHandle(args.handle) : null;
    switch (args.op) \x7b
        case 'focus':
            if (!el) return false;
            el.scrollIntoView(\x7bblock: 'center', inline: 'center'\x7d);
            el.focus();
            if ('value' in el) el.value = '';
            else if (el.isContentEditable) el.textContent = '';
            return true;
        case 'commit':
            if (!el) return false;
            el.dispatchEvent(new Event('input', \x7bbubbles: true\x7d));
            el.dispatchEvent(new Event('change', \x7bbubbles: true\x7d));
            return true;
        case 'scroll':
            if (args.handle && !el) return false;
            (el || window).scrollBy(args.x, args.y);
            return true;
    \x7d
    return false;
\x7d
"

end BrowserScript.Page
